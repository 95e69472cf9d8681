import Purse.Json.Reader
import Purse.Proofs.Json.Token

/-!
# Values that are read back

A reader reads a value back if it takes the text of the value off any text that goes on as it may go on
after a value. Integers of 64 bits, truth values, strings and what strings spell are read back, and so are
lists of what is read back.
-/
namespace Purse.Json

variable {α : Type}

/-- Whether a text begins like that of a value other than `null`. -/
def Opens (cs : List Char) : Prop := ∃ c rest, cs = c :: rest ∧ isBlank c = false ∧ c ≠ ']' ∧ c ≠ 'n'

theorem Opens.append {cs : List Char} (h : Opens cs) (rest : List Char) : Opens (cs ++ rest) := by
  obtain ⟨c, cs, rfl, hc⟩ := h
  exact ⟨c, cs ++ rest, rfl, hc⟩

theorem Opens.afterBlanks_eq {cs : List Char} (h : Opens cs) : afterBlanks cs = cs := by
  obtain ⟨c, cs, rfl, hblank, -⟩ := h
  exact afterBlanks_cons hblank cs

/-- A reader takes the text of a value for the given one and leaves what follows it. -/
structure ReadsBack (read : Reader α) (a : α) (v : Json) : Prop where
  opens : Opens v.chars
  reads {rest : List Char} : Closes rest → read (v.chars ++ rest) = .ok (a, rest)

theorem decode_render {read : Reader α} {a : α} {v : Json} (h : ReadsBack read a v) :
    decode read v.render = .ok a := by
  have hend : Closes [] := trivial
  have hread := h.reads hend
  rw [List.append_nil] at hread
  simp [decode, render, hread, bind, Except.bind, afterBlanks]

/-! ## Integers and truth values -/

theorem chars_int (n : Int) : (int n).chars = Numeral.signed n := by
  rw [int, chars, chars_ofInt]

theorem readsBack_int {n : Int} (h : Numeral.isWord n) : ReadsBack readInt n (int n) := by
  obtain ⟨c, cs, hsigned, hstart⟩ := Numeral.signed_eq_cons n
  have hopens : Opens (int n).chars := by
    refine ⟨c, cs, (chars_int n).trans hsigned, ?_⟩
    rcases hstart with hdigit | rfl
    · refine ⟨?_, ?_, ?_⟩
      · rw [Bool.eq_false_iff]
        intro hblank
        simp only [isBlank, Bool.or_eq_true, decide_eq_true_eq] at hblank
        rcases hblank with ((rfl | rfl) | rfl) | rfl <;> cases hdigit
      · rintro rfl
        cases hdigit
      · rintro rfl
        cases hdigit
    · decide
  refine ⟨hopens, fun {rest} hrest => ?_⟩
  have hnumber := readNumber_signed h hrest
  have hblanks := (hopens.append rest).afterBlanks_eq
  rw [chars_int, hsigned, List.cons_append] at hblanks ⊢
  rw [hsigned, List.cons_append] at hnumber
  have hguard : (c = '-' || c.isDigit) = true := by simpa [or_comm] using hstart
  simp [readInt, hblanks, hguard, hnumber, bind, Except.bind, Number.kept?_ofInt h, h]

theorem readsBack_bool (b : Bool) : ReadsBack readBool b (.bool b) := by
  cases b with
  | false => exact ⟨⟨'f', "alse".toList, by decide, by decide⟩, fun _ => rfl⟩
  | true => exact ⟨⟨'t', "rue".toList, by decide, by decide⟩, fun _ => rfl⟩

/-! ## Strings -/

theorem chars_text_append (s : String) (rest : List Char) :
    (text s).chars ++ rest = '"' :: (s.toList.flatMap escape ++ '"' :: rest) := by
  simp [chars, quoted]

theorem opens_text (s : String) : Opens (text s).chars := ⟨'"', _, rfl, by decide⟩

theorem readTextFor_text (expected s : String) (rest : List Char) :
    readTextFor expected ((text s).chars ++ rest) = .ok (s, rest) := by
  have hblanks : afterBlanks ('"' :: (s.toList.flatMap escape ++ '"' :: rest)) =
      '"' :: (s.toList.flatMap escape ++ '"' :: rest) := afterBlanks_cons (by decide) _
  rw [chars_text_append]
  simp [readTextFor, hblanks, readString_quoted, Except.map]

theorem readsBack_text (expected s : String) : ReadsBack (readTextFor expected) s (.text s) :=
  ⟨opens_text s, fun {rest} _ => readTextFor_text expected s rest⟩

theorem readsBack_spelled {ofText? : String → Option α} {a : α} {s : String} (h : ofText? s = some a)
    (expected : String) (complain : String → Mismatch) :
    ReadsBack (readSpelled expected ofText? complain) a (.text s) := by
  refine ⟨opens_text s, fun {rest} _ => ?_⟩
  simp [readSpelled, readTextFor_text, bind, Except.bind, h]

theorem readsBack_name {ofName? : String → Option α} {a : α} {s : String} (h : ofName? s = some a)
    (known : List String) : ReadsBack (readName known ofName?) a (.text s) := by
  refine ⟨opens_text s, fun {rest} hrest => ?_⟩
  have hread := (readsBack_spelled h "variant identifier" fun s => .unknownName s known).reads hrest
  have hblanks := ((opens_text s).append rest).afterBlanks_eq
  rw [chars_text_append] at hread hblanks ⊢
  simp only [readName, hblanks, hread]

/-! ## Values that may be missing -/

theorem readOption_null (read : Reader α) (rest : List Char) :
    readOption read (Json.null.chars ++ rest) = .ok (none, rest) := rfl

theorem readOption_of_readsBack {read : Reader α} {a : α} {v : Json} (h : ReadsBack read a v)
    {rest : List Char} (hrest : Closes rest) :
    readOption read (v.chars ++ rest) = .ok (some a, rest) := by
  have hread := h.reads hrest
  have hblanks := (h.opens.append rest).afterBlanks_eq
  obtain ⟨c, cs, hcs, -, -, hnull⟩ := h.opens.append rest
  rw [hcs] at hread hblanks ⊢
  simp [readOption, hblanks, hnull, hread, bind, Except.bind]

/-! ## Lists -/

/-- The text of the items that follow the first one. -/
def laterItems (vs : List Json) : List Char := vs.flatMap fun v => ',' :: v.chars

theorem itemChars_cons (v : Json) (vs : List Json) : itemChars (v :: vs) = v.chars ++ laterItems vs := by
  induction vs generalizing v with
  | nil => simp [itemChars, laterItems]
  | cons w vs ih => rw [itemChars, ih, laterItems, laterItems, List.flatMap_cons, List.cons_append]

theorem closes_laterItems (vs : List Json) (rest : List Char) : Closes (laterItems vs ++ ']' :: rest) := by
  cases vs with
  | nil => exact .inr (.inl rfl)
  | cons v vs => exact .inl rfl

theorem length_le_flatMap {β γ : Type} {f : β → List γ} (h : ∀ b, f b ≠ []) (bs : List β) :
    bs.length ≤ (bs.flatMap f).length := by
  induction bs with
  | nil => exact Nat.le_refl 0
  | cons b bs ih =>
      have hpos := List.length_pos_iff.2 (h b)
      rw [List.flatMap_cons, List.length_append, List.length_cons]
      omega

theorem length_le_itemChars (vs : List Json) : vs.length ≤ (itemChars vs).length + 1 := by
  cases vs with
  | nil => exact Nat.zero_le 1
  | cons v vs =>
      have hlater : vs.length ≤ (laterItems vs).length :=
        length_le_flatMap (fun _ => List.cons_ne_nil _ _) vs
      rw [itemChars_cons, List.length_append, List.length_cons]
      omega

theorem nextItem_first {cs : List Char} (h : Opens cs) : nextItem true cs = .ok (some cs) := by
  have hblanks := h.afterBlanks_eq
  obtain ⟨c, cs, rfl, -, hclose, -⟩ := h
  simp [nextItem, hblanks]

theorem nextItem_later {cs : List Char} (h : Opens cs) : nextItem false (',' :: cs) = .ok (some cs) := by
  have hcomma : afterBlanks (',' :: cs) = ',' :: cs := afterBlanks_cons (by decide) cs
  have hblanks := h.afterBlanks_eq
  obtain ⟨c, cs, rfl, -, hclose, -⟩ := h
  simp [nextItem, hcomma, hblanks, hclose]

variable {read : Reader α} {write : α → Json}

theorem readItemsWith_later {as : List α} (h : ∀ a ∈ as, ReadsBack read a (write a)) {steps : Nat}
    (hsteps : as.length < steps) (rest : List Char) :
    readItemsWith read steps false (laterItems (as.map write) ++ ']' :: rest) = .ok (as, ']' :: rest) := by
  induction as generalizing steps with
  | nil =>
      cases steps with
      | zero => cases hsteps
      | succ steps => rfl
  | cons a as ih =>
      cases steps with
      | zero => cases hsteps
      | succ steps =>
          have hitem := h a List.mem_cons_self
          have hnext := nextItem_later (hitem.opens.append (laterItems (as.map write) ++ ']' :: rest))
          have hread := hitem.reads (closes_laterItems (as.map write) rest)
          have hlater := ih (fun b hb => h b (List.mem_cons_of_mem a hb)) (Nat.lt_of_succ_lt_succ hsteps)
          have htext : laterItems ((a :: as).map write) ++ ']' :: rest =
              ',' :: ((write a).chars ++ (laterItems (as.map write) ++ ']' :: rest)) := by
            simp [laterItems]
          rw [htext]
          simp [readItemsWith, hnext, hread, hlater, bind, Except.bind]

theorem readItemsWith_items {as : List α} (h : ∀ a ∈ as, ReadsBack read a (write a)) {steps : Nat}
    (hsteps : as.length < steps) (rest : List Char) :
    readItemsWith read steps true (itemChars (as.map write) ++ ']' :: rest) = .ok (as, ']' :: rest) := by
  cases steps with
  | zero => cases hsteps
  | succ steps =>
      cases as with
      | nil => rfl
      | cons a as =>
          have hitem := h a List.mem_cons_self
          have hnext := nextItem_first (hitem.opens.append (laterItems (as.map write) ++ ']' :: rest))
          have hread := hitem.reads (closes_laterItems (as.map write) rest)
          have hlater := readItemsWith_later (fun b hb => h b (List.mem_cons_of_mem a hb))
            (Nat.lt_of_succ_lt_succ hsteps) rest
          rw [List.map_cons, itemChars_cons, List.append_assoc]
          simp [readItemsWith, hnext, hread, hlater, bind, Except.bind]

theorem readsBack_list {as : List α} (h : ∀ a ∈ as, ReadsBack read a (write a)) :
    ReadsBack (readList read) as (.array (as.map write)) := by
  refine ⟨⟨'[', _, rfl, by decide⟩, fun {rest} _ => ?_⟩
  have htext : (array (as.map write)).chars ++ rest = '[' :: (itemChars (as.map write) ++ ']' :: rest) := by
    simp [chars]
  have hopen : afterBlanks ('[' :: (itemChars (as.map write) ++ ']' :: rest)) =
      '[' :: (itemChars (as.map write) ++ ']' :: rest) := afterBlanks_cons (by decide) _
  have hclose : closeArray (']' :: rest) = .ok rest := rfl
  have hsteps : as.length < (itemChars (as.map write) ++ ']' :: rest).length + 1 := by
    have hlength := length_le_itemChars (as.map write)
    rw [List.length_map] at hlength
    simp only [List.length_append, List.length_cons]
    omega
  rw [htext]
  simp only [readList, hopen, readItemsWith_items h hsteps]
  simp [hclose, bind, Except.bind, Except.mapError]

end Purse.Json
