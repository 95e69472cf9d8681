import Mathlib.Algebra.Ring.Nat
import Mathlib.Tactic.Common
import Purse.Identifier

/-!
# Identifiers that are read back

The written form of an identifier is one of its spellings: thirty-two hexadecimal digits with hyphens
between the groups, and no other characters.
-/
namespace Purse

theorem hexDigit?_hexChar (d : Fin 16) : hexDigit? (hexChar d) = some d := by
  decide +revert

theorem Text.size_eq_length {cs : List Char} (h : ∀ c ∈ cs, c.utf8Size = 1) : size cs = cs.length := by
  induction cs with
  | nil => rfl
  | cons c cs ih =>
      rw [size, h c List.mem_cons_self, ih fun d hd => h d (List.mem_cons_of_mem _ hd), List.length_cons,
        Nat.add_comm]

namespace Uuid

theorem hexRun?_map_hexChar (ds : List (Fin 16)) (rest : List Char) :
    hexRun? ds.length (ds.map hexChar ++ rest) = some (ds, rest) := by
  induction ds with
  | nil => rfl
  | cons d ds ih => simp [hexRun?, hexDigit?_hexChar, ih]

/-- Digits in groups are read back if there are as many as the groups hold. -/
theorem ungrouped?_grouped (sizes : List Nat) (ds : List (Fin 16)) (h : ds.length = sizes.sum) :
    ungrouped? sizes (grouped sizes ds) = some ds := by
  induction sizes generalizing ds with
  | nil =>
      obtain rfl : ds = [] := List.length_eq_zero_iff.1 h
      rfl
  | cons n ns ih =>
      rw [List.sum_cons] at h
      have htake : (ds.take n).length = n := List.length_take_of_le (by omega)
      have hrun (rest : List Char) :
          hexRun? n ((ds.take n).map hexChar ++ rest) = some (ds.take n, rest) := by
        have hall := hexRun?_map_hexChar (ds.take n) rest
        rwa [htake] at hall
      cases ns with
      | nil =>
          have hlast := hrun []
          rw [List.append_nil] at hlast
          have hds : ds.take n = ds := List.take_of_length_le (by simp at h; omega)
          simp only [grouped, ungrouped?, hlast, bind, Option.bind_some, List.isEmpty_nil, if_true]
          rw [hds]
      | cons m ns =>
          have hrest := ih (ds.drop n) (by rw [List.length_drop]; omega)
          simp only [grouped, ungrouped?, hrun, hrest, bind, Option.bind_some, Option.map_some,
            List.take_append_drop]

/-- Only hexadecimal digits and hyphens are written. -/
theorem mem_grouped {sizes : List Nat} {ds : List (Fin 16)} {c : Char} (h : c ∈ grouped sizes ds) :
    c = '-' ∨ ∃ d, c = hexChar d := by
  have hrun {es : List (Fin 16)} (hc : c ∈ es.map hexChar) : c = '-' ∨ ∃ d, c = hexChar d := by
    obtain ⟨d, -, rfl⟩ := List.mem_map.1 hc
    exact .inr ⟨d, rfl⟩
  induction sizes generalizing ds with
  | nil => cases h
  | cons n ns ih =>
      cases ns with
      | nil => exact hrun h
      | cons m ns =>
          rw [grouped] at h
          rcases List.mem_append.1 h with hc | hc
          · exact hrun hc
          · rcases List.mem_cons.1 hc with rfl | hc
            · exact .inl rfl
            · exact ih hc
          all_goals simp

theorem length_chars (u : Uuid) : u.chars.length = 36 := by
  simp [chars, groups, grouped, u.length_eq]

theorem ofChars?_chars (u : Uuid) : ofChars? u.chars = some u := by
  have hsize : Text.size u.chars = 36 := by
    rw [Text.size_eq_length fun c hc => ?_, u.length_chars]
    rcases mem_grouped hc with rfl | ⟨d, rfl⟩
    · rfl
    · clear hc
      decide +revert
  have hdigits : ungrouped? groups u.chars = some u.digits :=
    ungrouped?_grouped groups u.digits u.length_eq
  simp only [ofChars?, unwrap?, hsize, bind, Option.bind_some, hdigits, ofDigits?]
  rw [dif_pos u.length_eq]

theorem ofText?_text (u : Uuid) : ofText? u.text = some u := by
  rw [ofText?, text, String.toList_ofList, ofChars?_chars]

end Uuid

theorem UserId.ofText?_text (id : UserId) : ofText? id.text = some id := by
  simp only [ofText?, text, Uuid.ofText?_text, Option.map_some]

theorem BookingId.ofText?_text (id : BookingId) : ofText? id.text = some id := by
  simp only [ofText?, text, Uuid.ofText?_text, Option.map_some]

theorem WalletId.ofText?_text (id : WalletId) : ofText? id.text = some id := by
  simp only [ofText?, text, Uuid.ofText?_text, Option.map_some]

theorem EntryId.ofText?_text (id : EntryId) : ofText? id.text = some id := by
  simp only [ofText?, text, Uuid.ofText?_text, Option.map_some]

theorem PaymentId.ofText?_text (id : PaymentId) : ofText? id.text = some id := by
  simp only [ofText?, text, Uuid.ofText?_text, Option.map_some]

end Purse
