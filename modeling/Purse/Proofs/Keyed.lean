import Mathlib.Data.List.Nodup
import Purse.Store

/-!
# Lists with a key

A table has at most one row for each key. Replacing the row of a key keeps the length and the order of
the table and every other row in its place, and so does the change that the store makes to the rows that
satisfy a condition, when the condition is to have that key.
-/
namespace Purse.Keyed

variable {α β κ ρ : Type} [DecidableEq κ] {key : α → κ} {a x : α} {as : List α}

/-- The list with every element that has the key of `a` replaced by `a`. -/
def put (key : α → κ) (a : α) (as : List α) : List α := Store.updateWhere (key · = key a) (fun _ => a) as

theorem mem_put : x ∈ put key a as ↔ x ∈ as ∧ key x ≠ key a ∨ x = a ∧ ∃ y ∈ as, key y = key a := by
  simp only [put, Store.updateWhere, List.mem_map, decide_eq_true_eq]
  constructor
  · rintro ⟨y, hy, rfl⟩
    split_ifs with h
    · exact .inr ⟨rfl, y, hy, h⟩
    · exact .inl ⟨hy, h⟩
  · rintro (⟨hx, h⟩ | ⟨rfl, y, hy, h⟩)
    · exact ⟨x, hx, if_neg h⟩
    · exact ⟨y, hy, if_pos h⟩

/-- An attribute that the new element shares with the replaced one is the same in every place. -/
theorem map_put (f : α → β) (h : ∀ y ∈ as, key y = key a → f y = f a) :
    (put key a as).map f = as.map f := by
  simp only [put, Store.updateWhere, List.map_map]
  refine List.map_congr_left fun y hy => ?_
  simp only [Function.comp_apply, decide_eq_true_eq]
  split_ifs with hk
  · exact (h y hy hk).symm
  · rfl

/-- A selection that the new element shares with the replaced one selects the same places. -/
theorem filter_put {P : α → Bool} (h : ∀ y ∈ as, key y = key a → P y = P a) :
    (put key a as).filter P = put key a (as.filter P) := by
  simp only [put, Store.updateWhere, List.filter_map]
  congr 1
  refine List.filter_congr fun y hy => ?_
  simp only [Function.comp_apply, decide_eq_true_eq]
  split_ifs with hk
  · exact (h y hy hk).symm
  · rfl

theorem any_put {P : α → Bool} (h : ∀ y ∈ as, key y = key a → P y = P a) :
    (put key a as).any P = as.any P := by
  have hmap := map_put P h
  simpa only [List.any_map, Function.id_comp] using congrArg (List.any · id) hmap

theorem map_key_put : (put key a as).map key = as.map key := map_put key fun _ _ h => h

theorem put_eq_self (h : ∀ y ∈ as, key y ≠ key a) : put key a as = as := by
  have hid : ∀ y ∈ as, (if decide (key y = key a) = true then a else y) = y := fun y hy =>
    if_neg (by simpa using h y hy)
  simp only [put, Store.updateWhere]
  exact (List.map_congr_left hid).trans (List.map_id' as)

theorem put_cons_self (hx : key x = key a) (h : ∀ y ∈ as, key y ≠ key a) :
    put key a (x :: as) = a :: as := by
  have hrest := put_eq_self h
  simp only [put, Store.updateWhere] at hrest ⊢
  simp only [List.map_cons, hrest, hx, decide_true, if_true]

omit [DecidableEq κ] in
/-- With distinct keys every element stands in a place of its own. -/
theorem split_key (nodup : (as.map key).Nodup) (hx : x ∈ as) :
    ∃ front back, as = front ++ x :: back ∧ (∀ y ∈ front, key y ≠ key x) ∧ ∀ y ∈ back, key y ≠ key x := by
  obtain ⟨front, back, rfl⟩ := List.append_of_mem hx
  rw [List.map_append, List.map_cons, List.nodup_middle, List.nodup_cons, ← List.map_append] at nodup
  have others (y : α) (hy : y ∈ front ++ back) : key y ≠ key x := fun heq =>
    nodup.1 (heq ▸ List.mem_map_of_mem hy)
  refine ⟨front, back, rfl, fun y hy => ?_, fun y hy => ?_⟩
  · exact others y (List.mem_append_left back hy)
  · exact others y (List.mem_append_right front hy)

/-- With distinct keys exactly one place changes. -/
theorem put_split (nodup : (as.map key).Nodup) (hx : x ∈ as) (h : key x = key a) :
    ∃ front back, as = front ++ x :: back ∧ put key a as = front ++ a :: back := by
  obtain ⟨front, back, rfl, hfront, hback⟩ := split_key nodup hx
  rw [h] at hfront hback
  have hfront := put_eq_self hfront
  have hback := put_eq_self hback
  refine ⟨front, back, rfl, ?_⟩
  simp only [put, Store.updateWhere] at hfront hback ⊢
  simp only [List.map_append, List.map_cons, hfront, hback, h, decide_true, if_true]

/-- Changing the written rows of a key is replacing the element that they were written for. -/
theorem updateWhere_map {write : α → ρ} {here : ρ → Bool} {change : ρ → ρ}
    (hhere : ∀ y ∈ as, here (write y) = decide (key y = key a))
    (hchange : ∀ y ∈ as, key y = key a → change (write y) = write a) :
    Store.updateWhere here change (as.map write) = (put key a as).map write := by
  simp only [put, Store.updateWhere, List.map_map]
  refine List.map_congr_left fun y hy => ?_
  simp only [Function.comp_apply, hhere y hy, decide_eq_true_eq]
  split_ifs with hk
  · exact hchange y hy hk
  · rfl

theorem find?_key (nodup : (as.map key).Nodup) (hx : x ∈ as) :
    as.find? (key · = key x) = some x := by
  cases hfind : as.find? (key · = key x) with
  | none =>
      have := List.find?_eq_none.1 hfind x hx
      simp at this
  | some y =>
      have hy := List.mem_of_find?_eq_some hfind
      have hk : key y = key x := by simpa using List.find?_some hfind
      rw [List.inj_on_of_nodup_map nodup hy hx hk]

theorem filter_key (nodup : (as.map key).Nodup) (hx : x ∈ as) : as.filter (key · = key x) = [x] := by
  obtain ⟨front, back, rfl, hfront, hback⟩ := split_key nodup hx
  have hfront : front.filter (key · = key x) = [] := List.filter_eq_nil_iff.2 (by simpa using hfront)
  have hback : back.filter (key · = key x) = [] := List.filter_eq_nil_iff.2 (by simpa using hback)
  rw [List.filter_append, List.filter_cons_of_pos (by simp), hfront, hback, List.nil_append]

theorem nodup_map_cons {f : α → β} (nodup : (as.map f).Nodup) (fresh : ∀ y ∈ as, f y ≠ f a) :
    ((a :: as).map f).Nodup := by
  rw [List.map_cons, List.nodup_cons, List.mem_map]
  exact ⟨fun ⟨y, hy, h⟩ => fresh y hy h, nodup⟩

end Purse.Keyed
