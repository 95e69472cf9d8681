import Purse.Json.Parser
import Purse.Proofs.Json.Record

/-!
# Objects without structure inside

An object whose members hold strings and integers of 64 bits is read as it was written by the reader that
takes any value.
-/
namespace Purse.Json

/-- Whether a value takes one step to read, at any depth. -/
def IsPlain (v : Json) : Prop :=
  ∀ {rest : List Char} (steps depth : Nat), Closes rest →
    readValue (steps + 1) depth (v.chars ++ rest) = some (v, rest)

theorem isPlain_text (s : String) : IsPlain (.text s) := by
  intro rest steps depth _
  rw [chars_text_append]
  simp [readValue, afterBlanks_cons (by decide : isBlank '"' = false), readString_quoted, Except.toOption]

theorem isPlain_int {n : Int} (h : Numeral.isWord n) : IsPlain (int n) := by
  intro rest steps depth hrest
  have hnumber := readNumber_signed h hrest
  have hblanks := ((readsBack_int h).opens.append rest).afterBlanks_eq
  obtain ⟨c, cs, hsigned, hstart⟩ := Numeral.signed_eq_cons n
  rw [hsigned, List.cons_append] at hnumber
  rw [chars_int, hsigned, List.cons_append] at hblanks ⊢
  have hother (d : Char) (hdigit : d.isDigit = false) (hminus : d ≠ '-') : c ≠ d := by
    rintro rfl
    exact hstart.elim (fun h => Bool.false_ne_true (hdigit ▸ h)) hminus
  have hnull := hother 'n' (by decide) (by decide)
  have htrue := hother 't' (by decide) (by decide)
  have hfalse := hother 'f' (by decide) (by decide)
  have htext := hother '"' (by decide) (by decide)
  have harray := hother '[' (by decide) (by decide)
  have hobject := hother '\x7b' (by decide) (by decide)
  simp [readValue, hblanks, hnull, htrue, hfalse, htext, harray, hobject, hnumber, Except.toOption, int]

theorem readMembers_plain {members : List (String × Json)} (hne : members ≠ [])
    (h : ∀ m ∈ members, IsPlain m.2) {steps : Nat} (hsteps : members.length < steps) (depth : Nat)
    (rest : List Char) :
    readMembers steps depth (memberChars members ++ '\x7d' :: rest) = some (members, rest) := by
  induction members generalizing steps with
  | nil => exact absurd rfl hne
  | cons m members ih =>
      obtain ⟨key, v⟩ := m
      rw [List.length_cons] at hsteps
      obtain ⟨steps, rfl⟩ : ∃ k, steps = k + 2 := ⟨steps - 2, by omega⟩
      have hvalue := h (key, v) List.mem_cons_self steps depth (closes_laterMembers members rest)
      have htext : memberChars ((key, v) :: members) ++ '\x7d' :: rest =
          '"' :: (key.toList.flatMap escape ++ '"' :: ':' ::
            (v.chars ++ (laterMembers members ++ '\x7d' :: rest))) := by
        rw [memberChars_cons]
        simp [quoted]
      rw [htext, readMembers]
      simp only [afterBlanks_cons (by decide : isBlank '"' = false), readString_quoted,
        afterColon_colon, Except.toOption, Option.bind_some, hvalue, String.ofList_toList,
        (closes_laterMembers members rest).afterBlanks_eq]
      cases members with
      | nil => rfl
      | cons m members =>
          have hfewer : (m :: members).length < steps + 1 := by omega
          have hlater := ih (List.cons_ne_nil m members)
            (fun n hn => h n (List.mem_cons_of_mem (key, v) hn)) hfewer
          rw [laterMembers_cons, List.cons_append]
          simp only [hlater, Option.map_some]

theorem readValue_plain {members : List (String × Json)} (hne : members ≠ [])
    (h : ∀ m ∈ members, IsPlain m.2) {steps : Nat} (hsteps : members.length < steps) (depth : Nat) :
    readValue (steps + 1) (depth + 1) (object members).chars = some (object members, []) := by
  have htext : (object members).chars = '\x7b' :: (memberChars members ++ ['\x7d']) := by
    simp [chars]
  have hopen := afterBlanks_cons (by decide : isBlank '\x7b' = false) (memberChars members ++ ['\x7d'])
  have hmembers := readMembers_plain hne h hsteps depth []
  have hkey : ∃ cs, memberChars members ++ ['\x7d'] = '"' :: cs := by
    obtain ⟨m, later, rfl⟩ := List.exists_cons_of_ne_nil hne
    rw [memberChars_cons]
    exact ⟨_, rfl⟩
  obtain ⟨cs, hcs⟩ := hkey
  rw [hcs] at htext hopen hmembers
  rw [htext, readValue]
  simp only [hopen, afterBlanks_cons (by decide : isBlank '"' = false), hmembers, Option.map_some]
  rfl

/-- Each member takes two steps at most, and there are more characters than members. -/
theorem parse?_object {members : List (String × Json)} (hne : members ≠ [])
    (h : ∀ m ∈ members, IsPlain m.2) : parse? (object members).render = some (object members) := by
  have hsteps : members.length < 2 * (object members).chars.length + 1 := by
    have hlength := length_le_memberChars members
    simp only [chars, List.cons_append, List.length_cons, List.length_append]
    omega
  have hvalue : readValue (2 * (object members).chars.length + 2) maxDepth (object members).chars =
      some (object members, []) := readValue_plain hne h hsteps 126
  simp only [parse?, render, String.toList_ofList, hvalue]
  rfl

end Purse.Json
