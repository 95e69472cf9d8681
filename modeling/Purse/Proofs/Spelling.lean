import Mathlib.Data.List.Induction
import Purse.Proofs.Uuid

/-!
# The spellings of an identifier

An identifier has four spellings in lower case, and any letter of a spelling may also be a capital. These
and no other texts are read as the identifier.
-/
namespace Purse

/-! ## Letter case -/

/-- What can be looked through one by one. -/
theorem of_ascii {P : Char → Prop} (h : ∀ n : Fin 128, P (Char.ofNat n)) {c : Char} (hc : c.toNat < 128) :
    P c :=
  c.ofNat_toNat ▸ h ⟨c.toNat, hc⟩

theorem toLower_of_le {c : Char} (h : 128 ≤ c.toNat) : c.toLower = c := by
  have hnot : ¬(c.val ≥ 'A'.val ∧ c.val ≤ 'Z'.val) := fun hc => by
    have : c.toNat ≤ 90 := UInt32.le_iff_toNat_le.1 hc.2
    omega
  exact dif_neg hnot

theorem toNat_hexChar_lt (d : Fin 16) : (hexChar d).toNat < 128 := by
  decide +revert

/-- A digit is read in either case. -/
theorem hexDigit?_eq_some {c : Char} {d : Fin 16} : hexDigit? c = some d ↔ c.toLower = hexChar d := by
  by_cases hc : c.toNat < 128
  · exact of_ascii (P := fun c => hexDigit? c = some d ↔ c.toLower = hexChar d) (by decide +revert) hc
  · have hnone : hexDigit? c = none := by
      have hle {limit : Char} (h : limit.toNat < 128) : ¬c ≤ limit := fun hle => by
        have : c.toNat ≤ limit.toNat := hle
        omega
      simp [hexDigit?, hle]
    have hchar := toNat_hexChar_lt d
    rw [hnone, toLower_of_le (Nat.not_lt.1 hc)]
    constructor
    · intro h
      cases h
    · rintro rfl
      exact absurd hchar hc

/-- A text of which the lower case has one byte for each character has so itself. -/
theorem size_of_toLower {cs : List Char} (h : ∀ c ∈ cs.map Char.toLower, c.toNat < 128) :
    Text.size cs = cs.length := by
  refine Text.size_eq_length fun c hc => ?_
  have hlower := h c.toLower (List.mem_map_of_mem hc)
  by_cases hascii : c.toNat < 128
  · exact of_ascii (P := fun c => c.utf8Size = 1) (by decide) hascii
  · rw [toLower_of_le (Nat.not_lt.1 hascii)] at hlower
    exact absurd hlower hascii

/-- What stands between and around the digits has no case. -/
theorem toLower_eq_mark {c m : Char} (hm : m = '-' ∨ m = '\x7b' ∨ m = '\x7d') : c.toLower = m ↔ c = m := by
  by_cases hc : c.toNat < 128
  · refine of_ascii (P := fun c => c.toLower = m ↔ c = m) ?_ hc
    rcases hm with rfl | rfl | rfl <;> decide
  · rw [toLower_of_le (Nat.not_lt.1 hc)]

namespace Uuid

theorem hexRun?_eq_some {n : Nat} {cs rest : List Char} {ds : List (Fin 16)} :
    hexRun? n cs = some (ds, rest) ↔
      ds.length = n ∧ ∃ front, cs = front ++ rest ∧ front.map Char.toLower = ds.map hexChar := by
  induction n generalizing cs ds with
  | zero =>
      simp only [hexRun?, Option.some.injEq, Prod.mk.injEq, List.length_eq_zero_iff]
      constructor
      · rintro ⟨rfl, rfl⟩
        exact ⟨rfl, [], rfl, rfl⟩
      · rintro ⟨rfl, front, rfl, hfront⟩
        obtain rfl := List.map_eq_nil_iff.1 hfront
        exact ⟨rfl, rfl⟩
  | succ n ih =>
      cases cs with
      | nil =>
          simp only [hexRun?]
          constructor
          · intro h
            cases h
          · rintro ⟨hlength, front, hcs, hfront⟩
            obtain ⟨rfl, -⟩ := List.append_eq_nil_iff.1 hcs.symm
            obtain rfl := List.map_eq_nil_iff.1 hfront.symm
            cases hlength
      | cons c cs =>
          simp only [hexRun?, bind, Option.bind_eq_some_iff, Option.some.injEq, Prod.mk.injEq, Prod.exists]
          constructor
          · rintro ⟨d, hd, es, rest', hrun, rfl, rfl⟩
            obtain ⟨rfl, front, rfl, hfront⟩ := ih.1 hrun
            exact ⟨rfl, c :: front, rfl, by rw [List.map_cons, List.map_cons, hexDigit?_eq_some.1 hd, hfront]⟩
          · rintro ⟨hlength, front, hcs, hfront⟩
            obtain ⟨d, es, rfl⟩ := List.exists_cons_of_length_eq_add_one hlength
            rw [List.map_cons, List.map_eq_cons_iff] at hfront
            obtain ⟨c', front, rfl, hc, hfront⟩ := hfront
            obtain ⟨rfl, rfl⟩ := List.cons.inj hcs
            have hrun := ih.2 ⟨Nat.succ.inj hlength, front, rfl, hfront⟩
            exact ⟨d, hexDigit?_eq_some.2 hc, es, rest, hrun, rfl, rfl⟩

/-- One run of digits, the hyphen and the later groups. -/
theorem ungrouped?_cons {n m : Nat} {ns : List Nat} {cs : List Char} {ds : List (Fin 16)} :
    ungrouped? (n :: m :: ns) cs = some ds ↔
      ∃ es fs rest, hexRun? n cs = some (es, '-' :: rest) ∧ ungrouped? (m :: ns) rest = some fs ∧
        es ++ fs = ds := by
  rw [ungrouped?]
  cases hexRun? n cs with
  | none => simp
  | some run =>
      obtain ⟨es, rest⟩ := run
      simp only [bind, Option.bind_some, Option.some.injEq, Prod.mk.injEq]
      split
      · rename_i rest
        simp [Option.map_eq_some_iff]
      · rename_i hrest
        constructor
        · intro h
          cases h
        · rintro ⟨-, -, rest', ⟨-, rfl⟩, -⟩
          exact absurd rfl (hrest rest')

/-- By induction on the groups: one run of digits and then the hyphen. -/
theorem ungrouped?_eq_some {sizes : List Nat} {cs : List Char} {ds : List (Fin 16)} :
    ungrouped? sizes cs = some ds ↔ ds.length = sizes.sum ∧ cs.map Char.toLower = grouped sizes ds := by
  induction sizes generalizing cs ds with
  | nil =>
      rw [grouped, List.sum_nil, List.map_eq_nil_iff, List.length_eq_zero_iff]
      cases cs <;> simp [ungrouped?, eq_comm]
  | cons n ns ih =>
      cases ns with
      | nil =>
          simp only [ungrouped?, bind, Option.bind_eq_some_iff, Prod.exists, hexRun?_eq_some,
            Option.ite_none_right_eq_some, List.isEmpty_iff, Option.some.injEq, grouped, List.sum_singleton]
          constructor
          · rintro ⟨es, rest, ⟨rfl, front, rfl, hfront⟩, rfl, rfl⟩
            rw [List.append_nil, List.take_length]
            exact ⟨rfl, hfront⟩
          · rintro ⟨rfl, hcs⟩
            rw [List.take_length] at hcs
            exact ⟨ds, [], ⟨rfl, cs, (List.append_nil cs).symm, hcs⟩, rfl, rfl⟩
      | cons m ns =>
          have hgrouped : grouped (n :: m :: ns) ds =
              (ds.take n).map hexChar ++ '-' :: grouped (m :: ns) (ds.drop n) := rfl
          rw [ungrouped?_cons, List.sum_cons, hgrouped]
          constructor
          · rintro ⟨es, fs, rest, hrun, hrest, rfl⟩
            obtain ⟨rfl, front, rfl, hfront⟩ := hexRun?_eq_some.1 hrun
            obtain ⟨hlength, hrest⟩ := ih.1 hrest
            rw [List.length_append, hlength, List.take_left, List.drop_left, List.map_append, List.map_cons,
              hfront, hrest]
            exact ⟨rfl, rfl⟩
          · rintro ⟨hlength, hcs⟩
            obtain ⟨front, later, rfl, hfront, hlater⟩ := List.map_eq_append_iff.1 hcs
            obtain ⟨c, rest, rfl, hc, hrest⟩ := List.map_eq_cons_iff.1 hlater
            obtain rfl := (toLower_eq_mark (by decide)).1 hc
            refine ⟨ds.take n, ds.drop n, rest, hexRun?_eq_some.2 ⟨?_, front, rfl, hfront⟩, ih.2 ⟨?_, hrest⟩,
              List.take_append_drop n ds⟩
            · rw [List.length_take]
              omega
            · rw [List.length_drop]
              omega

/-- What stands between two brackets. -/
theorem brackets_iff {cs body : List Char} {a b : Char} (hne : a ≠ b) :
    (cs.head? = some a ∧ cs.getLast? = some b) ∧ (cs.drop 1).dropLast = body ↔ cs = a :: (body ++ [b]) := by
  constructor
  · rintro ⟨⟨hhead, hlast⟩, rfl⟩
    obtain ⟨cs, rfl⟩ := List.head?_eq_some_iff.1 hhead
    cases cs using List.reverseRecOn with
    | nil => exact absurd (by simpa using hlast) hne
    | append_singleton cs c =>
        obtain rfl : c = b := by simpa [List.getLast?_cons] using hlast
        simp
  · rintro rfl
    simp [List.getLast?_cons]

/-- What is taken apart, by its length. -/
theorem unwrap?_eq_some {cs body : List Char} {sizes : List Nat} :
    unwrap? cs = some (sizes, body) ↔
      Text.size cs = 32 ∧ sizes = [32] ∧ body = cs ∨
      Text.size cs = 36 ∧ sizes = groups ∧ body = cs ∨
      Text.size cs = 38 ∧ sizes = groups ∧ cs = '\x7b' :: (body ++ ['\x7d']) ∨
      Text.size cs = 45 ∧ sizes = groups ∧
        ∃ front, cs = front ++ body ∧ front.map Char.toLower = "urn:uuid:".toList := by
  rw [unwrap?]
  split
  case h_1 h | h_2 h => simp [h, eq_comm]
  case h_3 h =>
    have hbrackets : (cs.head? = some '\x7b' ∧ cs.getLast? = some '\x7d') ∧ (cs.drop 1).dropLast = body ↔
        cs = '\x7b' :: (body ++ ['\x7d']) := brackets_iff (by decide)
    simp only [h, Option.ite_none_right_eq_some, Option.some.injEq, Prod.mk.injEq, ← hbrackets]
    grind
  case h_4 h =>
    have hfront : (cs.take 9).map Char.toLower = "urn:uuid:".toList ∧ cs.drop 9 = body ↔
        ∃ front, cs = front ++ body ∧ front.map Char.toLower = "urn:uuid:".toList := by
      constructor
      · rintro ⟨hfront, rfl⟩
        exact ⟨cs.take 9, (List.take_append_drop 9 cs).symm, hfront⟩
      · rintro ⟨front, rfl, hfront⟩
        have hlength : front.length = 9 := by rw [← List.length_map, hfront]; rfl
        rw [List.take_left' hlength, List.drop_left' hlength]
        exact ⟨hfront, rfl⟩
    simp only [h, Option.ite_none_right_eq_some, Option.some.injEq, Prod.mk.injEq, ← hfront]
    grind
  case h_5 h => simp_all

/-- The spellings in lower case. -/
def spellings (u : Uuid) : List (List Char) :=
  [u.digits.map hexChar, u.chars, '\x7b' :: (u.chars ++ ['\x7d']), "urn:uuid:".toList ++ u.chars]

/-- A text that spells an identifier in any case. -/
def IsSpelling (cs : List Char) (u : Uuid) : Prop := cs.map Char.toLower ∈ u.spellings

theorem toNat_lt_of_mem_spellings {u : Uuid} {cs : List Char} (h : cs ∈ u.spellings) :
    ∀ c ∈ cs, c.toNat < 128 := by
  have hchars : ∀ c ∈ u.chars, c.toNat < 128 := fun c hc => by
    rcases mem_grouped hc with rfl | ⟨d, rfl⟩
    · decide
    · exact toNat_hexChar_lt d
  have hbare : ∀ c ∈ u.digits.map hexChar, c.toNat < 128 := fun c hc => by
    obtain ⟨d, -, rfl⟩ := List.mem_map.1 hc
    exact toNat_hexChar_lt d
  have hurn : ∀ c ∈ "urn:uuid:".toList, c.toNat < 128 := by simp
  simp only [spellings, List.mem_cons, List.not_mem_nil, or_false] at h
  rcases h with rfl | rfl | rfl | rfl
  · exact hbare
  · exact hchars
  · rw [List.forall_mem_cons, List.forall_mem_append]
    exact ⟨by decide, hchars, List.forall_mem_singleton.2 (by decide)⟩
  · rw [List.forall_mem_append]
    exact ⟨hurn, hchars⟩

theorem IsSpelling.size {cs : List Char} {u : Uuid} (h : IsSpelling cs u) :
    Text.size cs = (cs.map Char.toLower).length := by
  rw [size_of_toLower (toNat_lt_of_mem_spellings h), List.length_map]

theorem ofChars?_eq_some_iff {cs : List Char} {u : Uuid} : ofChars? cs = some u ↔
    ∃ sizes body, unwrap? cs = some (sizes, body) ∧ ungrouped? sizes body = some u.digits := by
  simp only [ofChars?, bind, Option.bind_eq_some_iff, Prod.exists, ofDigits?]
  constructor
  · rintro ⟨sizes, body, hunwrap, ds, hds, h⟩
    split at h
    · obtain rfl := Option.some.inj h
      exact ⟨sizes, body, hunwrap, hds⟩
    · cases h
  · rintro ⟨sizes, body, hunwrap, hds⟩
    exact ⟨sizes, body, hunwrap, u.digits, hds, dif_pos u.length_eq⟩

theorem grouped_digits (u : Uuid) : grouped [32] u.digits = u.digits.map hexChar := by
  rw [grouped, List.take_of_length_le (Nat.le_of_eq u.length_eq)]

theorem isSpelling_of_unwrap? {cs body : List Char} {sizes : List Nat} {u : Uuid}
    (hunwrap : unwrap? cs = some (sizes, body)) (hdigits : ungrouped? sizes body = some u.digits) :
    IsSpelling cs u := by
  obtain ⟨-, hlower⟩ := ungrouped?_eq_some.1 hdigits
  rcases unwrap?_eq_some.1 hunwrap with ⟨-, rfl, rfl⟩ | ⟨-, rfl, rfl⟩ | ⟨-, rfl, rfl⟩ |
    ⟨-, rfl, front, rfl, hfront⟩
  · rw [IsSpelling, hlower, grouped_digits]
    simp [spellings]
  · rw [IsSpelling, hlower]
    simp [spellings, chars]
  · have hcs : ('\x7b' :: (body ++ ['\x7d'])).map Char.toLower = '\x7b' :: (u.chars ++ ['\x7d']) := by
      rw [List.map_cons, List.map_append, hlower]
      rfl
    rw [IsSpelling, hcs]
    simp [spellings]
  · rw [IsSpelling, List.map_append, hfront, hlower]
    simp [spellings, chars]

/-- The length of a spelling tells which of the four it is. -/
theorem IsSpelling.unwrap? {cs : List Char} {u : Uuid} (h : IsSpelling cs u) : ∃ sizes body,
    Uuid.unwrap? cs = some (sizes, body) ∧ ungrouped? sizes body = some u.digits := by
  have hsize := h.size
  have hlength := u.length_chars
  have hsum : u.digits.length = groups.sum := u.length_eq
  simp only [IsSpelling, spellings, List.mem_cons, List.not_mem_nil, or_false] at h
  rcases h with h | h | h | h
  · refine ⟨[32], cs, unwrap?_eq_some.2 (.inl ⟨?_, rfl, rfl⟩), ungrouped?_eq_some.2 ⟨u.length_eq, ?_⟩⟩
    · rw [hsize, h, List.length_map, u.length_eq]
    · rw [h, grouped_digits]
  · refine ⟨groups, cs, unwrap?_eq_some.2 (.inr (.inl ⟨?_, rfl, rfl⟩)), ungrouped?_eq_some.2 ⟨hsum, h⟩⟩
    rw [hsize, h, hlength]
  · obtain ⟨c, inner, rfl, hc, hinner⟩ := List.map_eq_cons_iff.1 h
    obtain ⟨body, last, rfl, hbody, hlast⟩ := List.map_eq_append_iff.1 hinner
    obtain ⟨d, rest, rfl, hd, hrest⟩ := List.map_eq_cons_iff.1 hlast
    obtain rfl := List.map_eq_nil_iff.1 hrest
    obtain rfl := (toLower_eq_mark (by decide)).1 hc
    obtain rfl := (toLower_eq_mark (by decide)).1 hd
    refine ⟨groups, body, unwrap?_eq_some.2 (.inr (.inr (.inl ⟨?_, rfl, rfl⟩))),
      ungrouped?_eq_some.2 ⟨hsum, hbody⟩⟩
    rw [hsize, h, List.length_cons, List.length_append, hlength]
    rfl
  · obtain ⟨front, body, rfl, hfront, hbody⟩ := List.map_eq_append_iff.1 h
    refine ⟨groups, body, unwrap?_eq_some.2 (.inr (.inr (.inr ⟨?_, rfl, front, rfl, hfront⟩))),
      ungrouped?_eq_some.2 ⟨hsum, hbody⟩⟩
    rw [hsize, h, List.length_append, hlength]
    rfl

/-- Exactly the spellings are read. -/
theorem ofChars?_eq_some {cs : List Char} {u : Uuid} : ofChars? cs = some u ↔ IsSpelling cs u := by
  rw [ofChars?_eq_some_iff]
  exact ⟨fun ⟨_, _, hunwrap, hdigits⟩ => isSpelling_of_unwrap? hunwrap hdigits, IsSpelling.unwrap?⟩

end Uuid
end Purse
