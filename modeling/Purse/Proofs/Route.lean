import Mathlib.Tactic.Common
import Purse.Http.Route

/-!
# Paths of routes

The parts of the path that leads to a route. A path that leads to a route is made of its parts, with a
slash in front of each.
-/
namespace Purse.Http

theorem splitAt_eq_splitOn (separator : Char) (cs : List Char) :
    splitAt separator cs = cs.splitOn separator := by
  induction cs with
  | nil => rfl
  | cons c cs ih =>
      rw [List.splitOn_cons_eq_if_modifyHead, splitAt, ih]
      by_cases h : c = separator
      · rw [if_pos h, if_pos (by simpa using h)]
      · rw [if_neg h, if_neg (by simpa using h)]
        cases hparts : cs.splitOn separator with
        | nil => exact absurd hparts (List.splitOn_ne_nil separator cs)
        | cons part parts => rfl

theorem intercalate_nil_cons (separator : Char) (parts : List (List Char)) :
    [separator].intercalate ([] :: parts) = parts.flatMap (separator :: ·) := by
  induction parts with
  | nil => rfl
  | cons part parts ih =>
      cases parts with
      | nil => simp
      | cons next parts =>
          rw [List.intercalate_cons_cons] at ih ⊢
          rw [List.intercalate_cons_cons, List.flatMap_cons, ← ih]
          simp

/-- Whether a character means something in a path or ends it. -/
def isMark (c : Char) : Bool := c = '/' || c = '?' || c = '#' || c = '%'

/-- Whether a part of a path is not empty and means itself. -/
def isPlainPart (part : List Char) : Bool := !part.isEmpty && part.all fun c => !isMark c

theorem isPlainPart_iff {part : List Char} :
    isPlainPart part ↔ part ≠ [] ∧ ∀ c ∈ part, isMark c = false := by
  simp [isPlainPart]

namespace Route

/-- The parts of the path, each of which a slash stands in front of. -/
def parts : Route → List (List Char)
  | .health => ["health".toList]
  | .document => ["api-docs".toList, "openapi.json".toList]
  | .wallet user => ["api".toList, "users".toList, user, "wallet".toList]
  | .balance user => ["api".toList, "users".toList, user, "wallet".toList, "balance".toList]
  | .deposit user => ["api".toList, "users".toList, user, "wallet".toList, "deposit".toList]
  | .withdraw user => ["api".toList, "users".toList, user, "wallet".toList, "withdraw".toList]
  | .history user => ["api".toList, "users".toList, user, "wallet".toList, "transactions".toList]
  | .userPayments user => ["api".toList, "users".toList, user, "payments".toList]
  | .payments => ["api".toList, "payments".toList]
  | .payment id => ["api".toList, "payments".toList, id]
  | .checkout id => ["api".toList, "payments".toList, id, "checkout".toList]
  | .refund id => ["api".toList, "payments".toList, id, "refund".toList]
  | .webhook provider => ["api".toList, "webhooks".toList, provider]

variable {route : Route}

theorem ofList_eq {cs : List Char} {s : String} : String.ofList cs = s ↔ cs = s.toList := by
  rw [← String.toList_inj, String.toList_ofList]

theorem map_ofList_eq {parts : List (List Char)} {names : List String} :
    parts.map String.ofList = names ↔ parts = names.map String.toList := by
  constructor
  · rintro rfl
    simp [Function.comp_def]
  · rintro rfl
    simp [Function.comp_def]

theorem parts_of_ofUser? {user : List Char} {rest : List (List Char)}
    (h : ofUser? user (rest.map String.ofList) = some route) :
    "api".toList :: "users".toList :: user :: rest = route.parts := by
  unfold ofUser? at h
  simp only [map_ofList_eq] at h
  split_ifs at h with h₁ h₂ h₃ h₄ h₅ h₆
  all_goals
    cases h
    simp_all [parts]

theorem parts_of_ofPayment? {id : List Char} {rest : List (List Char)}
    (h : ofPayment? id (rest.map String.ofList) = some route) :
    "api".toList :: "payments".toList :: id :: rest = route.parts := by
  unfold ofPayment? at h
  simp only [map_ofList_eq] at h
  split_ifs at h with h₁ h₂ h₃
  all_goals
    cases h
    simp_all [parts]

theorem parts_of_ofApi? {group : String} {rest : List (List Char)}
    (h : ofApi? group rest = some route) : "api".toList :: group.toList :: rest = route.parts := by
  unfold ofApi? at h
  split at h
  · split_ifs at h with hgroup
    cases h
    simp [parts, hgroup]
  · split_ifs at h with hempty hgroup hgroup hgroup
    · rw [hgroup]
      exact parts_of_ofUser? h
    · rw [hgroup]
      exact parts_of_ofPayment? h
    · cases h
      simp [parts, hgroup.1, hgroup.2]

theorem parts_of_ofPath? {path : List Char} (h : ofPath? path = some route) :
    splitAt '/' path = [] :: route.parts := by
  unfold ofPath? at h
  split at h
  · rename_i first rest hsplit
    rw [hsplit]
    refine congrArg ([] :: ·) ?_
    dsimp only at h
    split at h
    · split_ifs at h with hfirst
      cases h
      simp [parts, ofList_eq.1 hfirst]
    · rename_i second rest
      split_ifs at h with hfirst hdocument
      · have hparts := parts_of_ofApi? h
        rwa [String.toList_ofList (l := second), ← ofList_eq.1 hfirst] at hparts
      · cases h
        simp [parts, ofList_eq.1 hdocument.1, ofList_eq.1 hdocument.2.1, hdocument.2.2]
  · cases h

theorem path_of_ofPath? {path : List Char} (h : ofPath? path = some route) :
    path = ['/'].intercalate ([] :: route.parts) := by
  rw [← parts_of_ofPath? h, splitAt_eq_splitOn, List.intercalate_splitOn]

/-- What the parts of a route name; the other parts are fixed. -/
def names : Route → List (List Char)
  | .health | .document | .payments => []
  | .wallet user | .balance user | .deposit user | .withdraw user | .history user
  | .userPayments user => [user]
  | .payment id | .checkout id | .refund id => [id]
  | .webhook provider => [provider]

/-- The path of the route. -/
def path (route : Route) : List Char := route.parts.flatMap ('/' :: ·)

theorem path_eq_cons (route : Route) : ∃ cs, route.path = '/' :: cs := by
  cases route <;> exact ⟨_, rfl⟩

theorem isPlainPart_of_mem_parts (h : ∀ name ∈ route.names, isPlainPart name) :
    ∀ part ∈ route.parts, isPlainPart part := by
  cases route
  all_goals
    simp only [names, List.mem_singleton, forall_eq] at h
    simp only [parts, List.mem_cons, List.not_mem_nil, or_false, forall_eq_or_imp, forall_eq]
  case payments | health | document => decide
  case payment | webhook => exact ⟨by decide, by decide, h⟩
  case checkout | refund | userPayments | wallet => exact ⟨by decide, by decide, h, by decide⟩
  case balance | deposit | withdraw | history => exact ⟨by decide, by decide, h, by decide, by decide⟩

theorem isMark_of_mem_path (h : ∀ name ∈ route.names, isPlainPart name) {c : Char} (hc : c ∈ route.path) :
    c = '/' ∨ isMark c = false := by
  obtain ⟨part, hpart, hmem⟩ := List.mem_flatMap.1 hc
  rcases List.mem_cons.1 hmem with rfl | hmem
  · exact .inl rfl
  · exact .inr ((isPlainPart_iff.1 (isPlainPart_of_mem_parts h part hpart)).2 c hmem)

/-- The path of a route leads to it, if the names in it are plain. -/
theorem ofPath?_path (h : ∀ name ∈ route.names, isPlainPart name) : ofPath? route.path = some route := by
  have hslash : ∀ part ∈ [] :: route.parts, '/' ∉ part := by
    rw [List.forall_mem_cons]
    refine ⟨List.not_mem_nil, fun part hpart hmem => ?_⟩
    cases (isPlainPart_iff.1 (isPlainPart_of_mem_parts h part hpart)).2 '/' hmem
  have hsplit : splitAt '/' route.path = [] :: route.parts := by
    rw [path, ← intercalate_nil_cons, splitAt_eq_splitOn,
      List.splitOn_intercalate '/' hslash (List.cons_ne_nil _ _)]
  rw [ofPath?, hsplit]
  cases route
  all_goals
    simp only [names, List.mem_singleton, forall_eq] at h
    simp_all [parts, ofApi?, ofUser?, ofPayment?, isPlainPart_iff]

end Route
end Purse.Http
