import Purse.Json.Vocabulary
import Purse.Proofs.Json.Grammar

/-!
# Values are judged by their text

What a reader makes of the text of a value does not depend on what stands around it: with blanks in front
and anything behind that may follow a value, the outcome is the same, and if the value is accepted, exactly
its text is taken. Only the place that a flaw is noticed at depends on the rest, so outcomes are compared
without it.

This holds of every reader of the vocabulary and of a member that may be `null`.
-/
namespace Purse.Json

variable {α β : Type}

/-! ## Outcomes without places -/

/-- An outcome without the place of its flaw. -/
def forget (x : Except Flaw α) : Except Fault α := x.mapError Flaw.fault

@[simp] theorem forget_ok (a : α) : forget (.ok a) = .ok a := rfl

@[simp] theorem forget_error (flaw : Flaw) : forget (.error flaw : Except Flaw α) = .error flaw.fault := rfl

@[simp] theorem forget_bind (x : Except Flaw α) (f : α → Except Flaw β) :
    forget (x >>= f) = forget x >>= fun a => forget (f a) := by
  cases x <;> rfl

@[simp] theorem forget_map (x : Except Flaw α) (f : α → β) : forget (x.map f) = (forget x).map f := by
  cases x <;> rfl

theorem forget_eq_ok {x : Except Flaw α} {a : α} : forget x = .ok a ↔ x = .ok a := by
  cases x <;> simp

@[simp] theorem forget_settle (x : Except Flaw α) (readOn : List Char → List Char) :
    forget (x.mapError (.settle readOn)) = forget x := by
  cases x with
  | ok a => rfl
  | error flaw =>
      obtain ⟨fault, place⟩ := flaw
      cases place <;> rfl

/-- On a value, whatever follows it, a reader has this outcome. -/
def Decides (read : Reader α) (v : List Char) (o : Except Fault α) : Prop :=
  ∀ rest, Ends rest → forget (read (v ++ rest)) = o.map (·, rest)

/-- A reader that goes by the text of a value alone. -/
structure Judges (read : Reader α) : Prop where
  blanks {bs : List Char} (hbs : Blanks bs) (cs : List Char) : read (bs ++ cs) = read cs
  decides {v : List Char} (hv : IsValue v) : ∃ o, Decides read v o

/-- Reading goes on with a check of what was read. -/
theorem Decides.check {read : Reader α} {v : List Char} {o : Except Fault α} (h : Decides read v o)
    {read' : Reader β} (verdict : α → Except Fault β)
    (hread : ∀ rest, forget (read' (v ++ rest)) =
      forget (read (v ++ rest)) >>= fun taken => (verdict taken.1).map (·, taken.2)) :
    Decides read' v (o >>= verdict) := by
  intro rest hrest
  rw [hread, h rest hrest]
  cases o <;> rfl

theorem Judges.check {read : Reader α} (h : Judges read) {read' : Reader β} (verdict : α → Except Fault β)
    (hblanks : ∀ {bs : List Char}, Blanks bs → ∀ cs, read' (bs ++ cs) = read' cs)
    (hread : ∀ cs, forget (read' cs) =
      forget (read cs) >>= fun taken => (verdict taken.1).map (·, taken.2)) : Judges read' where
  blanks := hblanks
  decides {v} hv := by
    obtain ⟨o, ho⟩ := h.decides hv
    exact ⟨_, ho.check verdict fun rest => hread (v ++ rest)⟩

/-! ## What a value is, by its first character -/

theorem Written.of_quote {cs : List Char} (h : IsValue ('"' :: cs)) : ∃ ts, IsText ts ∧ cs = ts ++ ['"'] := by
  cases h with
  | text h => exact ⟨_, h, rfl⟩
  | number h =>
      obtain ⟨c, ds, heq, hc⟩ := h.cons
      obtain rfl := (List.cons.inj heq).1
      exact absurd rfl (ne_of_numeral hc).2.2.2.2.1

theorem Written.of_numeral {c : Char} {cs : List Char} (h : IsValue (c :: cs))
    (hc : c = '-' ∨ c.isDigit = true) : IsNumber (c :: cs) := by
  generalize hv : c :: cs = v at h
  cases h with
  | number h => exact h
  | wordNull | wordTrue | wordFalse | text | emptyArray | array | emptyObject | object =>
      obtain rfl := (List.cons.inj hv).1
      simp at hc

theorem Written.of_n {cs : List Char} (h : IsValue ('n' :: cs)) : cs = ['u', 'l', 'l'] := by
  cases h with
  | wordNull => rfl
  | number h =>
      obtain ⟨c, ds, heq, hc⟩ := h.cons
      obtain rfl := (List.cons.inj heq).1
      exact absurd rfl (ne_of_numeral hc).2.1

theorem Written.of_t {cs : List Char} (h : IsValue ('t' :: cs)) : cs = ['r', 'u', 'e'] := by
  cases h with
  | wordTrue => rfl
  | number h =>
      obtain ⟨c, ds, heq, hc⟩ := h.cons
      obtain rfl := (List.cons.inj heq).1
      exact absurd rfl (ne_of_numeral hc).2.2.1

theorem Written.of_f {cs : List Char} (h : IsValue ('f' :: cs)) : cs = ['a', 'l', 's', 'e'] := by
  cases h with
  | wordFalse => rfl
  | number h =>
      obtain ⟨c, ds, heq, hc⟩ := h.cons
      obtain rfl := (List.cons.inj heq).1
      exact absurd rfl (ne_of_numeral hc).2.2.2.1

/-! ## Strings -/

/-- The characters of a string, or what is wrong with its surrogates, are the same whatever follows it. -/
def Speaks (cs : List Char) (o : Except Fault (List Char)) : Prop :=
  ∀ read rest, forget (readString read (cs ++ '"' :: rest)) = o.map fun s => (read.reverse ++ s, rest)

/-- A first half of a surrogate pair that no escape of four digits follows. -/
theorem IsText.speaks_half {a b c d : Char} {n : Nat} {cs : List Char} (hn : hexWord? a b c d = some n)
    (hlow : isLowSurrogate n = false) (hhigh : isHighSurrogate n = true) (h : IsText cs)
    (hhex : ∀ e f g h ds, cs ≠ '\\' :: 'u' :: e :: f :: g :: h :: ds) :
    Speaks ('\\' :: 'u' :: a :: b :: c :: d :: cs) (.error (.malformed .halfSurrogate)) := by
  intro read rest
  cases h with
  | nil => simp [readString, hn, hlow, hhigh, badPair, Flaw.within, Except.map]
  | plain hplain =>
      simp [readString, hn, hlow, hhigh, badPair, Flaw.within, Except.map, hplain.2.1]
  | short hshort =>
      rcases shortEscape?_isSome hshort with rfl | rfl | rfl | rfl | rfl | rfl | rfl | rfl <;>
        simp [readString, hn, hlow, hhigh, badPair, Flaw.within, Except.map]
  | hex => exact absurd rfl (hhex _ _ _ _ _)

/-- Characters in front of the others that are read as one. -/
theorem Speaks.cons {ds cs : List Char} {c : Char} (hstep : ∀ read rest,
    readString read (ds ++ '"' :: rest) = readString (c :: read) (cs ++ '"' :: rest))
    (h : ∃ o, Speaks cs o) : ∃ o, Speaks ds o := by
  obtain ⟨o, ho⟩ := h
  refine ⟨o.map (c :: ·), fun read rest => ?_⟩
  rw [hstep, ho]
  cases o <;> simp [Except.map]

/-- An escape of four digits may go on with another one, of which only what follows it is a string of its
own. -/
theorem IsText.speaks_hex {a b c d : Char} {n : Nat} {cs : List Char} (hn : hexWord? a b c d = some n)
    (h : IsText cs) (ih : ∀ ds, ds.length ≤ cs.length → IsText ds → ∃ o, Speaks ds o) :
    ∃ o, Speaks ('\\' :: 'u' :: a :: b :: c :: d :: cs) o := by
  by_cases hlow : isLowSurrogate n
  · refine ⟨.error (.malformed .loneSurrogate), fun read rest => ?_⟩
    simp [readString, hn, hlow, Flaw.before, Except.map]
  rw [Bool.not_eq_true] at hlow
  by_cases hhigh : isHighSurrogate n
  · by_cases hnext : ∀ e f g h ds, cs ≠ '\\' :: 'u' :: e :: f :: g :: h :: ds
    · exact ⟨_, h.speaks_half hn hlow hhigh hnext⟩
    push Not at hnext
    obtain ⟨e, f, g, i, ds, rfl⟩ := hnext
    obtain ⟨m, hm, h⟩ : ∃ m, hexWord? e f g i = some m ∧ IsText ds := by
      cases h with
      | hex hhex h =>
          obtain ⟨m, hm⟩ := Option.isSome_iff_exists.1 hhex
          exact ⟨m, hm, h⟩
      | plain hplain => exact absurd rfl hplain.2.1
      | short hshort => cases hshort
    by_cases hpair : isLowSurrogate m
    · refine Speaks.cons (c := pairChar n m) (fun read rest => ?_) (ih ds ?_ h)
      · simp [readString, hn, hlow, hhigh, hm, hpair]
      · simp only [List.length_cons]
        omega
    · refine ⟨.error (.malformed .loneSurrogate), fun read rest => ?_⟩
      simp [readString, hn, hlow, hhigh, hm, hpair, Flaw.before, Except.map]
  · refine Speaks.cons (c := Char.ofNat n) (fun read rest => ?_) (ih cs (Nat.le_refl _) h)
    simp [readString, hn, hlow, hhigh]

/-- By induction on the length, since the two halves of a surrogate pair are read together. -/
theorem IsText.speaks {cs : List Char} (h : IsText cs) : ∃ o, Speaks cs o := by
  generalize hlength : cs.length = n
  induction n using Nat.strongRecOn generalizing cs with
  | ind n ih =>
      have hshorter {ds : List Char} (hds : ds.length < cs.length) (h : IsText ds) : ∃ o, Speaks ds o :=
        ih ds.length (hlength ▸ hds) h rfl
      cases h with
      | nil => exact ⟨.ok [], fun read rest => by simp [readString, Except.map]⟩
      | @plain c cs hplain h =>
          refine Speaks.cons (c := c) (fun read rest => ?_) (hshorter (by simp) h)
          rw [List.cons_append, readString]
          · rw [if_neg hplain.2.1, if_neg (Nat.not_lt.2 hplain.2.2)]
          all_goals simp_all [IsBare]
      | @short e cs hshort h =>
          obtain ⟨c, hc⟩ := Option.isSome_iff_exists.1 hshort
          refine Speaks.cons (c := c) (fun read rest => ?_)
            (hshorter (by simp only [List.length_cons]; omega) h)
          rcases shortEscape?_isSome hshort with rfl | rfl | rfl | rfl | rfl | rfl | rfl | rfl <;>
            simp [readString, hc]
      | @hex a b c d cs hhex h =>
          obtain ⟨m, hm⟩ := Option.isSome_iff_exists.1 hhex
          refine h.speaks_hex hm fun ds hds hds' => hshorter ?_ hds'
          simp only [List.length_cons]
          omega

/-! ## What else a text may hold -/

theorem IsNumber.decides {v : List Char} (h : IsNumber v) : ∃ o, Decides readNumber v o := by
  obtain ⟨n, hn⟩ := h.read
  by_cases hlarge : n.overflows
  · refine ⟨.error (.malformed .numberTooLarge), fun rest hrest => ?_⟩
    simp [readNumber, hn rest hrest, hlarge, bind, Except.bind, Except.map]
  · refine ⟨.ok n, fun rest hrest => ?_⟩
    simp [readNumber, hn rest hrest, hlarge, bind, Except.bind, Except.map]

/-- What a value is found to be does not depend on what follows it. -/
theorem Written.found {v : List Char} (h : IsValue v) : ∃ o : Except Fault Found, ∀ rest, Ends rest →
    (forget (readFound (v ++ rest))).map Prod.fst = o := by
  cases h with
  | wordNull => exact ⟨.ok .null, fun _ _ => rfl⟩
  | wordTrue => exact ⟨.ok (.truth true), fun _ _ => rfl⟩
  | wordFalse => exact ⟨.ok (.truth false), fun _ _ => rfl⟩
  | number h =>
      obtain ⟨o, ho⟩ := h.decides
      obtain ⟨c, cs, rfl, hc⟩ := h.cons
      have hnot := ne_of_numeral hc
      refine ⟨o.map .number, fun rest hrest => ?_⟩
      have hread := ho rest hrest
      rw [List.cons_append] at hread ⊢
      have hfound : readFound (c :: (cs ++ rest)) =
          (readNumber (c :: (cs ++ rest))).map fun taken => (.number taken.1, taken.2) := by
        simp [readFound, hnot, hc]
      rw [hfound, forget_map, hread]
      cases o <;> rfl
  | @text cs h =>
      obtain ⟨o, ho⟩ := h.speaks
      refine ⟨o.map fun s => .text (String.ofList s), fun rest _ => ?_⟩
      rw [List.cons_append, List.append_assoc]
      change (forget ((readString [] (cs ++ '"' :: rest)).map _)).map Prod.fst = _
      rw [forget_map, ho]
      cases o <;> rfl
  | emptyArray | array => exact ⟨.ok .list, fun _ _ => rfl⟩
  | emptyObject | object => exact ⟨.ok .object, fun _ _ => rfl⟩

theorem Written.misfit {v : List Char} (h : IsValue v) (expected : String) :
    ∃ fault, ∀ rest, Ends rest → (misfit expected (v ++ rest)).fault = fault := by
  obtain ⟨o, ho⟩ := h.found
  cases o with
  | error fault =>
      refine ⟨fault, fun rest hrest => ?_⟩
      have hfound := ho rest hrest
      unfold Json.misfit
      cases hread : readFound (v ++ rest) with
      | error flaw => simpa [hread, Except.map] using hfound
      | ok found => simp [hread, Except.map] at hfound
  | ok found =>
      refine ⟨.mismatch (.kind found expected), fun rest hrest => ?_⟩
      have hfound := ho rest hrest
      unfold Json.misfit
      cases hread : readFound (v ++ rest) with
      | error flaw => simp [hread, Except.map] at hfound
      | ok other =>
          obtain rfl : other.1 = found := by simpa [hread, Except.map] using hfound
          rfl

/-- A reader that was asked for something else. -/
theorem Written.decides_misfit {v : List Char} (h : IsValue v) (expected : String) {read : Reader α}
    (hread : ∀ rest, read (v ++ rest) = .error (Json.misfit expected (v ++ rest))) :
    ∃ o, Decides read v o := by
  obtain ⟨fault, hfault⟩ := h.misfit expected
  refine ⟨.error fault, fun rest hrest => ?_⟩
  rw [hread, forget_error, hfault rest hrest]
  rfl

/-! ## The readers of the vocabulary -/

theorem judges_readTextFor (expected : String) : Judges (readTextFor expected) where
  blanks hbs cs := by simp only [readTextFor, afterBlanks_append hbs]
  decides hv := by
    obtain ⟨c, cs, rfl, hblank, -⟩ := hv.value_cons
    by_cases hc : c = '"'
    · subst hc
      obtain ⟨ts, hts, rfl⟩ := hv.of_quote
      obtain ⟨o, ho⟩ := hts.speaks
      refine ⟨o.map String.ofList, fun rest _ => ?_⟩
      rw [List.cons_append, List.append_assoc, readTextFor, afterBlanks_cons hblank]
      change forget ((readString [] (ts ++ '"' :: rest)).map _) = _
      rw [forget_map, ho]
      cases o <;> rfl
    · refine hv.decides_misfit expected fun rest => ?_
      rw [List.cons_append, readTextFor, afterBlanks_cons hblank]
      simp [hc]

theorem judges_readSpelled (expected : String) (ofText? : String → Option α)
    (complain : String → Mismatch) : Judges (readSpelled expected ofText? complain) := by
  refine (judges_readTextFor expected).check
    (fun s => (ofText? s).elim (.error (.mismatch (complain s))) .ok) (fun hbs cs => ?_) fun cs => ?_
  · simp only [readSpelled, (judges_readTextFor expected).blanks hbs]
  · rw [readSpelled, forget_bind]
    cases readTextFor expected cs with
    | error flaw => rfl
    | ok taken =>
        dsimp only [forget_ok, bind, Except.bind]
        cases ofText? taken.1 <;> rfl

theorem judges_readIdentifier (ofText? : String → Option α) : Judges (readIdentifier ofText?) :=
  judges_readSpelled "a formatted UUID string" ofText? fun s => .identifier (Uuid.flaw s.toList)

theorem judges_readTime : Judges readTime := by
  have htext := judges_readTextFor "an RFC 3339 formatted date and time string"
  refine htext.check (fun s => (Timestamp.read s.toList).mapError fun flaw => .mismatch (.time flaw))
    (fun hbs cs => ?_) fun cs => ?_
  · simp only [readTime, htext.blanks hbs]
  · rw [readTime, forget_bind]
    cases readTextFor "an RFC 3339 formatted date and time string" cs with
    | error flaw => rfl
    | ok taken =>
        dsimp only [forget_ok, bind, Except.bind]
        cases Timestamp.read taken.1.toList <;> rfl

/-- What an integer is as a number. -/
def integerVerdict (n : Number) : Except Fault Int :=
  n.kept?.elim (.error (.mismatch (.kind (.number n) "i64"))) fun i =>
    if Numeral.isWord i then .ok i else .error (.mismatch (.range (.number n) "i64"))

theorem judges_readInt : Judges readInt where
  blanks hbs cs := by simp only [readInt, afterBlanks_append hbs]
  decides hv := by
    obtain ⟨c, cs, rfl, hblank, -⟩ := hv.value_cons
    by_cases hc : c = '-' ∨ c.isDigit = true
    · obtain ⟨o, ho⟩ := (hv.of_numeral hc).decides
      refine ⟨_, ho.check integerVerdict fun rest => ?_⟩
      rw [List.cons_append, readInt, afterBlanks_cons hblank]
      refine (congrArg forget (if_pos (by simpa using hc))).trans ?_
      rw [forget_bind]
      cases readNumber (c :: (cs ++ rest)) with
      | error flaw => rfl
      | ok taken =>
          dsimp only [forget_ok, bind, Except.bind, integerVerdict]
          cases taken.1.kept? with
          | none => rfl
          | some i =>
              dsimp only [Option.elim]
              split_ifs <;> rfl
    · refine hv.decides_misfit "i64" fun rest => ?_
      rw [List.cons_append, readInt, afterBlanks_cons hblank]
      simp [hc]

theorem judges_readAmount : Judges readAmount := by
  refine judges_readInt.check (fun n => (Amount.ofInt n).mapError fun cause => .mismatch (.refused cause))
    (fun hbs cs => ?_) fun cs => ?_
  · simp only [readAmount, judges_readInt.blanks hbs]
  · rw [readAmount, forget_bind]
    cases readInt cs with
    | error flaw => rfl
    | ok taken =>
        dsimp only [forget_ok, bind, Except.bind]
        cases Amount.ofInt taken.1 <;> rfl

theorem judges_readBool : Judges readBool where
  blanks hbs cs := by simp only [readBool, afterBlanks_append hbs]
  decides hv := by
    obtain ⟨c, cs, rfl, hblank, -⟩ := hv.value_cons
    by_cases ht : c = 't'
    · subst ht
      obtain rfl := hv.of_t
      exact ⟨.ok true, fun _ _ => rfl⟩
    by_cases hf : c = 'f'
    · subst hf
      obtain rfl := hv.of_f
      exact ⟨.ok false, fun _ _ => rfl⟩
    refine hv.decides_misfit "a boolean" fun rest => ?_
    rw [List.cons_append, readBool, afterBlanks_cons hblank]
    simp [ht, hf]

theorem judges_readNull : Judges readNull where
  blanks hbs cs := by simp only [readNull, afterBlanks_append hbs]
  decides hv := by
    obtain ⟨c, cs, rfl, hblank, -⟩ := hv.value_cons
    by_cases hn : c = 'n'
    · subst hn
      obtain rfl := hv.of_n
      exact ⟨.ok (), fun _ _ => rfl⟩
    refine hv.decides_misfit "unit" fun rest => ?_
    rw [List.cons_append, readNull, afterBlanks_cons hblank]
    simp [hn]

theorem judges_readOption {read : Reader α} (h : Judges read) : Judges (readOption read) where
  blanks hbs cs := by simp only [readOption, afterBlanks_append hbs]
  decides hv := by
    obtain ⟨c, cs, rfl, hblank, -⟩ := hv.value_cons
    by_cases hn : c = 'n'
    · subst hn
      obtain rfl := hv.of_n
      exact ⟨.ok none, fun _ _ => rfl⟩
    obtain ⟨o, ho⟩ := h.decides hv
    refine ⟨o.map some, fun rest hrest => ?_⟩
    have hread : readOption read (c :: cs ++ rest) =
        (read (c :: cs ++ rest)).map fun taken => (some taken.1, taken.2) := by
      rw [List.cons_append, readOption, afterBlanks_cons hblank]
      split
      · rename_i heq
        exact absurd (List.cons.inj heq).1 hn
      · cases read (c :: (cs ++ rest)) <;> rfl
    rw [hread, forget_map, ho rest hrest]
    cases o <;> rfl

/-- A name as the key of an object: its first member is looked at, and then there must be no other. -/
theorem decides_key {known : List String} {ofName? : String → Option α} {bs key as ds v : List Char}
    (hbs : Blanks bs) (hkey : IsText key) (has : Blanks as) (hds : Blanks ds) (hv : IsValue v) :
    ∃ o : Except Fault α, ∀ tail, Ends tail →
      forget (readName known ofName?
        ('\x7b' :: (bs ++ '"' :: (key ++ '"' :: (as ++ ':' :: (ds ++ (v ++ tail))))))) =
      o >>= fun a => forget (match afterBlanks tail with
        | '\x7d' :: rest => .ok (a, rest)
        | [] => .error (.before .endInObject [])
        | rest => .error (.before .noValue rest)) := by
  obtain ⟨name, hname⟩ := (judges_readSpelled "variant identifier" ofName?
    fun s => .unknownName s known).decides (.text hkey)
  obtain ⟨null, hnull⟩ := judges_readNull.decides hv
  refine ⟨name >>= fun a => null.map fun _ => a, fun tail htail => ?_⟩
  have hends : Ends (as ++ ':' :: (ds ++ (v ++ tail))) := ends_append has (.inr (.inr (.inl rfl)))
  have hname := hname _ hends
  have hnull := hnull tail htail
  simp only [List.cons_append, List.append_assoc, List.nil_append] at hname
  simp only [readName, afterBlanks_cons (by decide : isBlank '\x7b' = false),
    afterBlanks_of_append hbs (by decide : isBlank '"' = false), forget_bind, hname]
  cases name with
  | error fault => rfl
  | ok a =>
      simp only [Except.map, bind, Except.bind, afterColon_append has, forget_ok, judges_readNull.blanks hds,
        hnull]
      cases null <;> rfl

theorem judges_readName (known : List String) (ofName? : String → Option α) :
    Judges (readName known ofName?) where
  blanks hbs cs := by simp only [readName, afterBlanks_append hbs]
  decides hv := by
    have hname := (judges_readSpelled "variant identifier" ofName? fun s => .unknownName s known).decides hv
    cases hv with
    | @text cs _ =>
        obtain ⟨o, ho⟩ := hname
        refine ⟨o, fun rest hrest => ?_⟩
        rw [← ho rest hrest, List.cons_append, readName, afterBlanks_cons (by decide)]
        rfl
    | @emptyObject bs hbs =>
        refine ⟨.error (.malformed .noValue), fun rest _ => ?_⟩
        have hclose := afterBlanks_of_append hbs (by decide : isBlank '\x7d' = false) rest
        rw [List.cons_append, List.append_assoc, readName, afterBlanks_cons (by decide)]
        simp [hclose, Flaw.within, Except.map]
    | @object cs bs hmembers hbs =>
        cases hmembers with
        | lastMember hfront hkey has hds hv =>
            obtain ⟨o, ho⟩ := decides_key hfront hkey has hds hv
            refine ⟨o, fun rest _ => ?_⟩
            have hclose := afterBlanks_of_append hbs (by decide : isBlank '\x7d' = false) rest
            have hread := ho (bs ++ '\x7d' :: rest) (ends_append hbs (.inr (.inr (.inr (.inr rfl)))))
            simp only [List.cons_append, List.append_assoc, List.nil_append]
            rw [hread, hclose]
            cases o <;> rfl
        | @member _ _ _ _ _ es cs hfront hkey has hds hv hes _ =>
            obtain ⟨o, ho⟩ := decides_key hfront hkey has hds hv
            refine ⟨o >>= fun _ => .error (.malformed .noValue), fun rest _ => ?_⟩
            have hcomma := afterBlanks_of_append hes (by decide : isBlank ',' = false)
              (cs ++ (bs ++ '\x7d' :: rest))
            have hread := ho (es ++ ',' :: (cs ++ (bs ++ '\x7d' :: rest))) (ends_append hes (.inr (.inl rfl)))
            simp only [List.cons_append, List.append_assoc, List.nil_append]
            rw [hread, hcomma]
            cases o <;> rfl
    | number h =>
        obtain ⟨c, cs, rfl, hc⟩ := h.cons
        have hnot := ne_of_numeral hc
        refine ⟨.error (.malformed .noValue), fun rest _ => ?_⟩
        rw [List.cons_append, readName, afterBlanks_cons hnot.1]
        simp [hnot, Flaw.within, Except.map]
    | wordNull | wordTrue | wordFalse | emptyArray | array =>
        exact ⟨.error (.malformed .noValue), fun _ _ => rfl⟩

/-- Every type of the vocabulary that is no record. -/
class Judged (α : Type) [Wire α] : Prop where
  judges : Judges (Wire.read : Reader α)

instance : Judged Int := ⟨judges_readInt⟩
instance : Judged Bool := ⟨judges_readBool⟩
instance : Judged String := ⟨judges_readTextFor _⟩
instance : Judged Amount := ⟨judges_readAmount⟩
instance : Judged Timestamp := ⟨judges_readTime⟩
instance : Judged UserId := ⟨judges_readIdentifier UserId.ofText?⟩
instance : Judged BookingId := ⟨judges_readIdentifier BookingId.ofText?⟩
instance : Judged WalletId := ⟨judges_readIdentifier WalletId.ofText?⟩
instance : Judged EntryId := ⟨judges_readIdentifier EntryId.ofText?⟩
instance : Judged PaymentId := ⟨judges_readIdentifier PaymentId.ofText?⟩
instance : Judged PaymentMethod := ⟨judges_readName _ _⟩
instance : Judged PaymentStatus := ⟨judges_readName _ _⟩
instance : Judged EntryKind := ⟨judges_readName _ _⟩

end Purse.Json
