import Purse.Proofs.Request

/-!
# Targets

A target is a path and perhaps a query, and a scheme and a server may stand in front of them. Each of the
pieces decides for itself whether it lets the target be read. So a part of the path may take the place of
another one, as far as the length of the target goes.
-/
namespace Purse

/-! ## Lengths -/

namespace Text

theorem size_ofList (cs : List Char) : (String.ofList cs).utf8ByteSize = size cs := by
  induction cs with
  | nil => rfl
  | cons c cs ih => simp [size, ← ih]

theorem size_toList (s : String) : size s.toList = s.utf8ByteSize := by
  rw [← size_ofList, String.ofList_toList]

theorem size_append (cs ds : List Char) : size (cs ++ ds) = size cs + size ds := by
  induction cs with
  | nil => simp [size]
  | cons c cs ih => simp [size, ih, Nat.add_assoc]

theorem size_replicate (n : Nat) {c : Char} (hc : c.utf8Size = 1) : size (List.replicate n c) = n := by
  rw [size_eq_length fun d hd => List.eq_of_mem_replicate hd ▸ hc, List.length_replicate]

end Text

/-! ## Schemes and servers -/

namespace Origin

variable (o : Origin) (rest : List Char)

theorem address_append : o.address ++ rest = o.scheme ++ ':' :: '/' :: '/' :: (o.server ++ rest) := by
  simp [address]

theorem scheme?_address : Http.Uri.scheme? (o.address ++ rest) = some (o.scheme, o.server ++ rest) := by
  have hscheme : ∀ c ∈ o.scheme, Http.Uri.isSchemeChar c = true := List.all_eq_true.1 o.scheme_all
  have hlength : ¬(o.scheme ++ ':' :: '/' :: '/' :: (o.server ++ rest)).length ≤ 3 := by
    have hserver := List.length_pos_iff.2 o.server_ne_nil
    simp only [List.length_append, List.length_cons]
    omega
  have hcolon : Http.Uri.isSchemeChar ':' = false := rfl
  rw [address_append, Http.Uri.scheme?, List.dropWhile_append_of_pos hscheme,
    List.takeWhile_append_of_pos hscheme, List.dropWhile_cons_of_neg (by simp [hcolon]),
    List.takeWhile_cons_of_neg (by simp [hcolon]), List.append_nil]
  exact if_neg hlength

theorem address_eq_cons : ∃ c cs, o.address ++ rest = c :: cs ∧ c ≠ '/' ∧ c ≠ '*' := by
  rw [address_append]
  cases hscheme : o.scheme with
  | nil => exact ⟨':', _, rfl, by decide, by decide⟩
  | cons c cs =>
      have hc := List.all_eq_true.1 o.scheme_all c (hscheme ▸ List.mem_cons_self)
      refine ⟨c, _, rfl, ?_, ?_⟩
      all_goals
        rintro rfl
        cases hc

theorem not_endsServer : ∀ c ∈ o.server, (!Http.Uri.endsServer c) = true := fun c hc => by
  simpa using List.any_eq_false.1 o.server_any c hc

theorem takeWhile_server (cs : List Char) :
    (o.server ++ '/' :: cs).takeWhile (fun c => !Http.Uri.endsServer c) = o.server := by
  rw [List.takeWhile_append_of_pos o.not_endsServer, List.takeWhile_cons_of_neg (by decide),
    List.append_nil]

theorem dropWhile_server (cs : List Char) :
    (o.server ++ '/' :: cs).dropWhile (fun c => !Http.Uri.endsServer c) = '/' :: cs := by
  rw [List.dropWhile_append_of_pos o.not_endsServer, List.dropWhile_cons_of_neg (by decide)]

end Origin

namespace Http

/-! ## Fronts -/

namespace Uri

theorem isSome_withTarget? (u : Uri) (cs : List Char) :
    (u.withTarget? cs).isSome = ((pathOf cs).all isPathChar && (queryOf cs).all isQueryChar) := by
  unfold withTarget?
  split_ifs with h
  · exact h.symm
  · exact (Bool.eq_false_iff.2 h).symm

theorem isSome_ofChars?_slash {cs : List Char} (h : Text.size ('/' :: cs) ≤ maxSize) :
    (ofChars? ('/' :: cs)).isSome =
      ((pathOf ('/' :: cs)).all isPathChar && (queryOf ('/' :: cs)).all isQueryChar) := by
  rw [ofChars?, if_neg (Nat.not_lt.2 h)]
  exact isSome_withTarget? {} ('/' :: cs)

theorem size_of_isSome {cs : List Char} (h : (ofChars? cs).isSome) : Text.size cs ≤ maxSize := by
  by_contra hlong
  unfold ofChars? at h
  rw [if_pos (Nat.not_le.1 hlong)] at h
  cases h

end Uri

/-- What may stand in front of the path in a target: nothing, or a scheme and a server. -/
def IsFront (front : List Char) : Prop := front = [] ∨ ∃ o : Origin, front = o.address

section Front
variable {front : List Char} (hfront : IsFront front)
include hfront

theorem relativeTarget_front {r : Request} {cs : List Char} (h : r.target.toList = front ++ '/' :: cs) :
    r.relativeTarget = '/' :: cs := by
  rw [Request.relativeTarget, h]
  rcases hfront with rfl | ⟨o, rfl⟩
  · rfl
  · obtain ⟨c, ds, hcons, hslash, -⟩ := o.address_eq_cons ('/' :: cs)
    have hscheme := o.scheme?_address ('/' :: cs)
    rw [hcons] at hscheme ⊢
    split
    next heq => exact absurd (List.cons.inj heq).1 hslash
    next =>
      rw [hscheme]
      exact o.dropWhile_server cs

/-- Behind a front that can be read it is up to the characters of the path and of the query. -/
theorem isSome_ofChars?_front : ∃ isFit : Bool, ∀ cs, Text.size (front ++ '/' :: cs) ≤ Uri.maxSize →
    (Uri.ofChars? (front ++ '/' :: cs)).isSome =
      (isFit && ((Uri.pathOf ('/' :: cs)).all Uri.isPathChar &&
        (Uri.queryOf ('/' :: cs)).all Uri.isQueryChar)) := by
  rcases hfront with rfl | ⟨o, rfl⟩
  · exact ⟨true, fun cs hsize => (Uri.isSome_ofChars?_slash hsize).trans (Bool.true_and _).symm⟩
  · refine ⟨!(Uri.maxScheme < o.scheme.length || o.server.isEmpty || !Uri.isServer o.server),
      fun cs hsize => ?_⟩
    obtain ⟨c, ds, hcons, hslash, hstar⟩ := o.address_eq_cons ('/' :: cs)
    have hscheme := o.scheme?_address ('/' :: cs)
    rw [hcons] at hsize hscheme ⊢
    rw [Uri.ofChars?, if_neg (Nat.not_lt.2 hsize), hscheme]
    · simp only [o.takeWhile_server, List.drop_left]
      split_ifs with hunfit
      · rw [hunfit]
        rfl
      · rw [Uri.isSome_withTarget?, Bool.eq_false_iff.2 hunfit]
        rfl
    · exact nofun
    · simp [hstar]
    · simp [hslash]

end Front

/-! ## Parts -/

/-- What may stand between two slashes of a path. -/
def IsPart (part : List Char) : Prop := ∀ c ∈ part, Uri.isPathChar c = true ∧ c ≠ '/'

theorem isPart_of_all {part : List Char} (h : (part.all fun c => Uri.isPathChar c && c ≠ '/') = true) :
    IsPart part := by
  simpa [IsPart] using h

/-- The path from the name of a group on. -/
def below (group : String) (cs : List Char) : List Char := "/api/".toList ++ (group.toList ++ '/' :: cs)

theorem ne_of_isPathChar {c : Char} (h : Uri.isPathChar c = true) : (c ≠ '?' && c ≠ '#') = true := by
  have hquestion : c ≠ '?' := by
    rintro rfl
    cases h
  have hhash : c ≠ '#' := by
    rintro rfl
    cases h
  simp [hquestion, hhash]

section Stem
variable {stem : List Char} (h : ∀ c ∈ stem, Uri.isPathChar c = true) (rest : List Char)
include h

theorem pathOf_append : Uri.pathOf (stem ++ rest) = stem ++ Uri.pathOf rest :=
  List.takeWhile_append_of_pos fun c hc => ne_of_isPathChar (h c hc)

theorem queryOf_append : Uri.queryOf (stem ++ rest) = Uri.queryOf rest := by
  rw [Uri.queryOf, List.dropWhile_append_of_pos fun c hc => ne_of_isPathChar (h c hc)]
  rfl

end Stem

section Below
variable {group : String} (hgroup : ∀ c ∈ group.toList, Uri.isPathChar c = true) {part : List Char}
  (hpart : IsPart part) (rest : List Char)
include hgroup hpart

theorem isPathChar_below : ∀ c ∈ below group part, Uri.isPathChar c = true := by
  have hslash : Uri.isPathChar '/' = true := rfl
  have hapi : ∀ c ∈ "/api/".toList, Uri.isPathChar c = true := List.all_eq_true.1 rfl
  simp only [below, List.forall_mem_append, List.forall_mem_cons, hslash, true_and]
  exact ⟨hapi, hgroup, fun c hc => (hpart c hc).1⟩

theorem pathOf_below : Uri.pathOf (below group (part ++ rest)) = below group (part ++ Uri.pathOf rest) := by
  have h := pathOf_append (isPathChar_below hgroup hpart) rest
  simpa [below] using h

theorem queryOf_below : Uri.queryOf (below group (part ++ rest)) = Uri.queryOf rest := by
  have h := queryOf_append (isPathChar_below hgroup hpart) rest
  simpa [below] using h

theorem all_pathOf_below : (Uri.pathOf (below group (part ++ rest))).all Uri.isPathChar =
    (Uri.pathOf rest).all Uri.isPathChar := by
  have hstem := List.all_eq_true.2 (isPathChar_below hgroup hpart)
  have happend : below group (part ++ Uri.pathOf rest) = below group part ++ Uri.pathOf rest := by
    simp [below]
  rw [pathOf_below hgroup hpart, happend, List.all_append, hstem, Bool.true_and]

end Below

section Request
variable {r : Request} {front : List Char} (hfront : IsFront front) {group : String}
  (hgroup : ∀ c ∈ group.toList, Uri.isPathChar c = true) {part : List Char} (hpart : IsPart part)
  {rest : List Char} (h : r.target.toList = front ++ below group (part ++ rest))
include hfront hgroup hpart h

theorem Request.path_eq_below : r.path = below group (part ++ Uri.pathOf rest) := by
  rw [Request.path, relativeTarget_front hfront h]
  exact pathOf_below hgroup hpart rest

theorem Request.query_eq_rest : r.query = Uri.queryOf rest := by
  rw [Request.query, relativeTarget_front hfront h]
  exact queryOf_below hgroup hpart rest

end Request

/-- Whether a target can be read does not depend on a part of the path, unless it gets too long. -/
theorem isSome_ofChars?_swap {front : List Char} (hfront : IsFront front) {group : String}
    (hgroup : ∀ c ∈ group.toList, Uri.isPathChar c = true) {part part' : List Char} (hpart : IsPart part)
    (hpart' : IsPart part') {rest : List Char}
    (hsize : Text.size (front ++ below group (part ++ rest)) ≤ Uri.maxSize)
    (hsize' : Text.size (front ++ below group (part' ++ rest)) ≤ Uri.maxSize) :
    (Uri.ofChars? (front ++ below group (part ++ rest))).isSome =
      (Uri.ofChars? (front ++ below group (part' ++ rest))).isSome := by
  obtain ⟨isFit, hfit⟩ := isSome_ofChars?_front hfront
  have hall := all_pathOf_below hgroup hpart rest
  have hall' := all_pathOf_below hgroup hpart' rest
  have hquery := queryOf_below hgroup hpart rest
  have hquery' := queryOf_below hgroup hpart' rest
  have hcons (cs : List Char) : below group cs = '/' :: (below group cs).tail := rfl
  rw [hcons] at hsize hsize' hall hall' hquery hquery'
  rw [hcons, hcons (part' ++ rest), hfit _ hsize, hfit _ hsize', hall, hall', hquery, hquery']

end Http
end Purse
