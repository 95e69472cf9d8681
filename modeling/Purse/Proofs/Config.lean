import Purse.Config
import Purse.Proofs.Numeral

/-!
# Settings that are accepted

A numeral is read exactly if it is digits of a number within the limit, with or without a plus sign. Any
other text is refused for its first position that is at fault. So the variables decide alone which
settings a server starts with, and which of them is reported if it does not start.
-/
namespace Purse
namespace Numeral

variable {limit read n : Nat} {cs ds : List Char} {fault : Fault}

/-- At least one digit, with or without zeros in front, and the number that they stand for. -/
structure Spells (ds : List Char) (n : Nat) : Prop where
  nonempty : ds ≠ []
  digits : ∀ d ∈ ds, d.isDigit
  value : Nat.ofDigitChars 10 ds 0 = n

/-- A numeral and its number: digits, with or without a plus sign. -/
inductive Denotes : List Char → Nat → Prop where
  | plain {ds : List Char} {n : Nat} (digits : Spells ds n) : Denotes ds n
  | plus {ds : List Char} {n : Nat} (digits : Spells ds n) : Denotes ('+' :: ds) n

/-- What is wrong at the first position that is at fault, behind digits that keep the number read so far
within the limit. -/
inductive Offends (limit read : Nat) : List Char → Fault → Prop where
  | badDigit (before : List Char) (c : Char) (rest : List Char)
      (digits : ∀ d ∈ before, d.isDigit) (within : Nat.ofDigitChars 10 before read ≤ limit)
      (bad : ¬c.isDigit) : Offends limit read (before ++ c :: rest) .badDigit
  | tooLarge (before : List Char) (c : Char) (rest : List Char)
      (digits : ∀ d ∈ before, d.isDigit) (within : Nat.ofDigitChars 10 before read ≤ limit)
      (digit : c.isDigit) (beyond : limit < Nat.ofDigitChars 10 (before ++ [c]) read) :
      Offends limit read (before ++ c :: rest) .tooLarge

/-- What is wrong with a text that is no numeral of a number within the limit. -/
inductive Refused (limit : Nat) : List Char → Fault → Prop where
  | empty : Refused limit [] .empty
  | bareSign : Refused limit ['+'] .badDigit
  | plus {ds : List Char} {fault : Fault} (offends : Offends limit 0 ds fault) :
      Refused limit ('+' :: ds) fault
  | plain {cs : List Char} {fault : Fault} (unsigned : cs.head? ≠ some '+')
      (offends : Offends limit 0 cs fault) : Refused limit cs fault

/-! ## Reading digits -/

theorem Offends.cons {c : Char} (hdigit : c.isDigit)
    (h : Offends limit (10 * read + (c.toNat - '0'.toNat)) cs fault) :
    Offends limit read (c :: cs) fault := by
  have hcons {before : List Char} (h : ∀ d ∈ before, d.isDigit) : ∀ d ∈ c :: before, d.isDigit :=
    List.forall_mem_cons.2 ⟨hdigit, h⟩
  cases h with
  | badDigit before e rest digits within bad =>
      exact .badDigit (c :: before) e rest (hcons digits) within bad
  | tooLarge before e rest digits within digit beyond =>
      exact .tooLarge (c :: before) e rest (hcons digits) within digit beyond

/-- The number is formed exactly if all of the text is digits and the number is within the limit. -/
theorem accumulate_ok (hread : read ≤ limit) :
    accumulate limit read cs = .ok n ↔
      (∀ c ∈ cs, c.isDigit) ∧ Nat.ofDigitChars 10 cs read = n ∧ n ≤ limit := by
  induction cs generalizing read with
  | nil =>
      rw [accumulate, Except.ok.injEq, Nat.ofDigitChars_nil]
      exact ⟨fun h => ⟨by simp, h, h ▸ hread⟩, fun h => h.2.1⟩
  | cons c cs ih =>
      rw [accumulate, Nat.ofDigitChars_cons, List.forall_mem_cons]
      by_cases hdigit : c.isDigit
      · by_cases hlarge : limit < 10 * read + (c.toNat - '0'.toNat)
        · -- The digits behind it cannot take the number back below the limit.
          have hle := le_ofDigitChars cs (10 * read + (c.toNat - '0'.toNat))
          simp only [hdigit, hlarge, if_true, reduceCtorEq, true_and, false_iff]
          omega
        · simp only [hdigit, hlarge, if_true, if_false, true_and]
          exact ih (by omega)
      · simp [hdigit]

/-- Digits are refused for the first position that is at fault. -/
theorem accumulate_error (hread : read ≤ limit) (h : accumulate limit read cs = .error fault) :
    Offends limit read cs fault := by
  induction cs generalizing read with
  | nil => cases h
  | cons c cs ih =>
      rw [accumulate] at h
      by_cases hdigit : c.isDigit
      · by_cases hlarge : limit < 10 * read + (c.toNat - '0'.toNat)
        · simp only [hdigit, hlarge, if_true, Except.error.injEq] at h
          subst h
          exact .tooLarge [] c cs (by simp) hread hdigit hlarge
        · simp only [hdigit, hlarge, if_true, if_false] at h
          exact (ih (by omega) h).cons hdigit
      · simp only [hdigit, Bool.false_eq_true, if_false, Except.error.injEq] at h
        subst h
        exact .badDigit [] c cs (by simp) hread hdigit

/-- What is read behind digits that keep the number within the limit. -/
theorem accumulate_append {before : List Char} (rest : List Char) (hdigits : ∀ d ∈ before, d.isDigit)
    (hwithin : Nat.ofDigitChars 10 before read ≤ limit) :
    accumulate limit read (before ++ rest) =
      accumulate limit (Nat.ofDigitChars 10 before read) rest := by
  induction before generalizing read with
  | nil => rfl
  | cons c cs ih =>
      obtain ⟨hdigit, hdigits⟩ := List.forall_mem_cons.1 hdigits
      rw [Nat.ofDigitChars_cons] at hwithin ⊢
      have hle := le_ofDigitChars cs (10 * read + (c.toNat - '0'.toNat))
      rw [List.cons_append, accumulate, if_pos hdigit]
      simp only [if_neg (show ¬limit < 10 * read + (c.toNat - '0'.toNat) by omega)]
      exact ih hdigits hwithin

theorem Offends.accumulate (h : Offends limit read cs fault) :
    accumulate limit read cs = .error fault := by
  cases h with
  | badDigit before c rest digits within bad =>
      rw [accumulate_append _ digits within, Numeral.accumulate, if_neg bad]
  | tooLarge before c rest digits within digit beyond =>
      rw [Nat.ofDigitChars_append] at beyond
      rw [accumulate_append _ digits within, Numeral.accumulate, if_pos digit]
      exact if_pos beyond

/-! ## Reading numerals -/

theorem bounded_plus (h : ds ≠ []) : bounded limit ('+' :: ds) = accumulate limit 0 ds := by
  cases ds with
  | nil => exact absurd rfl h
  | cons d ds => rfl

theorem bounded_plain (hne : cs ≠ []) (h : cs.head? ≠ some '+') :
    bounded limit cs = accumulate limit 0 cs := by
  unfold bounded
  split
  · exact absurd rfl hne
  · exact absurd rfl h
  · exact absurd rfl h
  · rfl

theorem Spells.head_ne (h : Spells ds n) : ds.head? ≠ some '+' := by
  intro hhead
  have hdigit := h.digits '+' (List.mem_of_mem_head? hhead)
  cases hdigit

theorem Spells.accumulate (h : Spells ds n) (hle : n ≤ limit) : accumulate limit 0 ds = .ok n :=
  (accumulate_ok (Nat.zero_le limit)).2 ⟨h.digits, h.value, hle⟩

theorem Denotes.bounded (h : Denotes cs n) (hle : n ≤ limit) : bounded limit cs = .ok n := by
  cases h with
  | plain digits => rw [bounded_plain digits.nonempty digits.head_ne, digits.accumulate hle]
  | plus digits => rw [bounded_plus digits.nonempty, digits.accumulate hle]

theorem Offends.ne_nil (h : Offends limit read cs fault) : cs ≠ [] := by
  cases h <;> simp

theorem Refused.bounded (h : Refused limit cs fault) : bounded limit cs = .error fault := by
  cases h with
  | empty => rfl
  | bareSign => rfl
  | plus offends => rw [bounded_plus offends.ne_nil, offends.accumulate]
  | plain unsigned offends => rw [bounded_plain offends.ne_nil unsigned, offends.accumulate]

/-- Digits are read, or are refused at some position. -/
theorem spells_or_offends (limit : Nat) (h : ds ≠ []) :
    (∃ n ≤ limit, Spells ds n) ∨ ∃ fault, Offends limit 0 ds fault := by
  cases hread : accumulate limit 0 ds with
  | ok n =>
      obtain ⟨hdigits, hvalue, hle⟩ := (accumulate_ok (Nat.zero_le limit)).1 hread
      exact .inl ⟨n, hle, h, hdigits, hvalue⟩
  | error fault => exact .inr ⟨fault, accumulate_error (Nat.zero_le limit) hread⟩

/-- Every text is a numeral of a number within the limit, or has a first fault. -/
theorem denotes_or_refused (limit : Nat) (cs : List Char) :
    (∃ n ≤ limit, Denotes cs n) ∨ ∃ fault, Refused limit cs fault := by
  by_cases hnil : cs = []
  · exact .inr ⟨.empty, hnil ▸ .empty⟩
  by_cases hplus : cs.head? = some '+'
  · obtain ⟨ds, rfl⟩ := List.head?_eq_some_iff.1 hplus
    by_cases hds : ds = []
    · exact .inr ⟨.badDigit, hds ▸ .bareSign⟩
    · rcases spells_or_offends limit hds with ⟨n, hle, hspells⟩ | ⟨fault, hoffends⟩
      · exact .inl ⟨n, hle, .plus hspells⟩
      · exact .inr ⟨fault, .plus hoffends⟩
  · rcases spells_or_offends limit hnil with ⟨n, hle, hspells⟩ | ⟨fault, hoffends⟩
    · exact .inl ⟨n, hle, .plain hspells⟩
    · exact .inr ⟨fault, .plain hplus hoffends⟩

end Numeral

namespace Config

variable {lookup : String → Option String}

/-- The names of the variables that settings are read from. -/
def names : List String :=
  ["PORT", "DATABASE_URL", "GATEWAY_A_CHECKOUT_URL", "GATEWAY_B_CHECKOUT_URL",
    "REQUEST_TIMEOUT_SECS", "OTEL_EXPORTER_OTLP_ENDPOINT"]

/-- The number that a variable gives: the usual one if it is not set, or that of its numeral. -/
def Gives (lookup : String → Option String) (name : String) (limit usual n : Nat) : Prop :=
  match lookup name with
  | none => n = usual
  | some text => Numeral.Denotes text.toList n ∧ n ≤ limit

/-- What is wrong with a variable that gives no number. -/
def Spoils (lookup : String → Option String) (name : String) (limit : Nat)
    (fault : Numeral.Fault) : Prop :=
  ∃ text, lookup name = some text ∧ Numeral.Refused limit text.toList fault

/-- The settings that variables give which are as they should be. -/
structure Accepts (lookup : String → Option String) (c : Config) : Prop where
  listenAt : Gives lookup "PORT" 65535 3000 c.listenAt
  database : lookup "DATABASE_URL" = some c.databaseUrl
  gatewayA : c.gatewayA = (lookup "GATEWAY_A_CHECKOUT_URL").getD "https://checkout.gateway-a.test"
  gatewayB : c.gatewayB = (lookup "GATEWAY_B_CHECKOUT_URL").getD "https://pay.gateway-b.test"
  timeout : Gives lookup "REQUEST_TIMEOUT_SECS" 18446744073709551615 30 c.requestTimeout
  positive : 0 < c.requestTimeout
  collector : ∀ a, c.collector = some a → lookup "OTEL_EXPORTER_OTLP_ENDPOINT" = some a
  absent : c.collector = none ↔
    lookup "OTEL_EXPORTER_OTLP_ENDPOINT" = none ∨ lookup "OTEL_EXPORTER_OTLP_ENDPOINT" = some ""

/-- The error that variables lead to, which is that of the first one that is not as it should be. -/
inductive Refuses (lookup : String → Option String) : ConfigError → Prop where
  | listenAt {fault : Numeral.Fault} (spoils : Spoils lookup "PORT" 65535 fault) :
      Refuses lookup (.listenAt fault)
  | databaseMissing {place : Nat} (listenAt : Gives lookup "PORT" 65535 3000 place)
      (missing : lookup "DATABASE_URL" = none) : Refuses lookup .databaseMissing
  | timeout {place : Nat} {url : String} {fault : Numeral.Fault}
      (listenAt : Gives lookup "PORT" 65535 3000 place) (database : lookup "DATABASE_URL" = some url)
      (spoils : Spoils lookup "REQUEST_TIMEOUT_SECS" 18446744073709551615 fault) :
      Refuses lookup (.timeout fault)
  | timeoutZero {place : Nat} {url : String}
      (listenAt : Gives lookup "PORT" 65535 3000 place) (database : lookup "DATABASE_URL" = some url)
      (zero : Gives lookup "REQUEST_TIMEOUT_SECS" 18446744073709551615 30 0) :
      Refuses lookup .timeoutZero

section Numbers

variable {name otherwise : String} {limit usual n : Nat} {fault : Numeral.Fault}
  {complain : Numeral.Fault → ConfigError}

theorem Gives.readNumber (h : Gives lookup name limit usual n)
    (husual : Numeral.bounded limit otherwise.toList = .ok usual) :
    readNumber limit otherwise complain (lookup name) = .ok n := by
  unfold Gives at h
  unfold Config.readNumber
  cases hlookup : lookup name with
  | none =>
      rw [hlookup] at h
      rw [Option.getD_none, husual, h]
  | some text =>
      rw [hlookup] at h
      rw [Option.getD_some, h.1.bounded h.2]

theorem Spoils.readNumber (h : Spoils lookup name limit fault) :
    readNumber limit otherwise complain (lookup name) = .error (complain fault) := by
  obtain ⟨text, hlookup, hrefused⟩ := h
  rw [Config.readNumber, hlookup, Option.getD_some, hrefused.bounded]

/-- A variable gives a number or is at fault. -/
theorem gives_or_spoils (lookup : String → Option String) (name : String) (limit usual : Nat) :
    (∃ n, Gives lookup name limit usual n) ∨ ∃ fault, Spoils lookup name limit fault := by
  cases hlookup : lookup name with
  | none => exact .inl ⟨usual, by rw [Gives, hlookup]⟩
  | some text =>
      rcases Numeral.denotes_or_refused limit text.toList with ⟨n, hle, hn⟩ | ⟨fault, hfault⟩
      · exact .inl ⟨n, by rw [Gives, hlookup]; exact ⟨hn, hle⟩⟩
      · exact .inr ⟨fault, text, hlookup, hfault⟩

end Numbers

theorem bounded_usual_listenAt : Numeral.bounded 65535 "3000".toList = .ok 3000 := by
  decide +kernel

theorem bounded_usual_timeout : Numeral.bounded 18446744073709551615 "30".toList = .ok 30 := by
  decide +kernel

theorem Accepts.collector_eq {c : Config} (h : Accepts lookup c) :
    (lookup "OTEL_EXPORTER_OTLP_ENDPOINT").filter (· ≠ "") = c.collector := by
  cases hcollector : c.collector with
  | none =>
      rcases h.absent.1 hcollector with hunset | hempty
      · rw [hunset, Option.filter_none]
      · rw [hempty, Option.filter_some, if_neg (by decide)]
  | some a =>
      have hset := h.collector a hcollector
      have hne : a ≠ "" := by
        rintro rfl
        rw [h.absent.2 (.inr hset)] at hcollector
        cases hcollector
      rw [hset, Option.filter_some, if_pos (decide_eq_true hne)]

theorem Accepts.ofVariables {c : Config} (h : Accepts lookup c) : ofVariables lookup = .ok c := by
  have hcollector := h.collector_eq
  have hpositive : c.requestTimeout ≠ 0 := Nat.ne_of_gt h.positive
  simp only [Config.ofVariables, h.listenAt.readNumber bounded_usual_listenAt, h.database,
    h.timeout.readNumber bounded_usual_timeout, hcollector]
  refine (if_neg hpositive).trans (congrArg Except.ok ?_)
  cases c with
  | mk listenAt databaseUrl gatewayA gatewayB requestTimeout collector =>
      cases h.gatewayA
      cases h.gatewayB
      rfl

theorem Refuses.ofVariables {e : ConfigError} (h : Refuses lookup e) :
    ofVariables lookup = .error e := by
  cases h with
  | listenAt spoils =>
      simp only [Config.ofVariables, spoils.readNumber]
      rfl
  | databaseMissing listenAt missing =>
      simp only [Config.ofVariables, listenAt.readNumber bounded_usual_listenAt, missing]
      rfl
  | timeout listenAt database spoils =>
      simp only [Config.ofVariables, listenAt.readNumber bounded_usual_listenAt, database,
        spoils.readNumber]
      rfl
  | timeoutZero listenAt database zero =>
      simp only [Config.ofVariables, listenAt.readNumber bounded_usual_listenAt, database,
        zero.readNumber bounded_usual_timeout]
      rfl

/-- The settings for numbers and a database that are given. -/
theorem exists_accepts {place timeout : Nat} {url : String} (hlisten : Gives lookup "PORT" 65535 3000 place)
    (hdatabase : lookup "DATABASE_URL" = some url)
    (htimeout : Gives lookup "REQUEST_TIMEOUT_SECS" 18446744073709551615 30 timeout)
    (hpositive : 0 < timeout) : ∃ c, Accepts lookup c :=
  ⟨{  listenAt := place
      databaseUrl := url
      gatewayA := (lookup "GATEWAY_A_CHECKOUT_URL").getD Gateway.defaultBaseA
      gatewayB := (lookup "GATEWAY_B_CHECKOUT_URL").getD Gateway.defaultBaseB
      requestTimeout := timeout
      collector := (lookup "OTEL_EXPORTER_OTLP_ENDPOINT").filter (· ≠ "") },
    { listenAt := hlisten
      database := hdatabase
      gatewayA := rfl
      gatewayB := rfl
      timeout := htimeout
      positive := hpositive
      collector := fun a h => (Option.filter_eq_some_iff.1 h).1
      absent := by
        cases lookup "OTEL_EXPORTER_OTLP_ENDPOINT" <;> simp }⟩

/-- Any variables give settings, or the first of them that is not as it should be is at fault. -/
theorem accepts_or_refuses (lookup : String → Option String) :
    (∃ c, Accepts lookup c) ∨ ∃ e, Refuses lookup e := by
  obtain ⟨place, hlisten⟩ | ⟨fault, hspoils⟩ := gives_or_spoils lookup "PORT" 65535 3000
  · cases hdatabase : lookup "DATABASE_URL" with
    | none => exact .inr ⟨_, .databaseMissing hlisten hdatabase⟩
    | some url =>
        obtain ⟨timeout, htimeout⟩ | ⟨fault, hspoils⟩ :=
          gives_or_spoils lookup "REQUEST_TIMEOUT_SECS" 18446744073709551615 30
        · rcases Nat.eq_zero_or_pos timeout with rfl | hpositive
          · exact .inr ⟨_, .timeoutZero hlisten hdatabase htimeout⟩
          · exact .inl (exists_accepts hlisten hdatabase htimeout hpositive)
        · exact .inr ⟨_, .timeout hlisten hdatabase hspoils⟩
  · exact .inr ⟨_, .listenAt hspoils⟩

theorem ofVariables_ok {c : Config} : ofVariables lookup = .ok c ↔ Accepts lookup c := by
  refine ⟨fun h => ?_, Accepts.ofVariables⟩
  obtain ⟨c', hc'⟩ | ⟨e, he⟩ := accepts_or_refuses lookup
  · exact Except.ok.inj (h.symm.trans hc'.ofVariables) ▸ hc'
  · cases h.symm.trans he.ofVariables

theorem ofVariables_error {e : ConfigError} : ofVariables lookup = .error e ↔ Refuses lookup e := by
  refine ⟨fun h => ?_, Refuses.ofVariables⟩
  obtain ⟨c, hc⟩ | ⟨e', he'⟩ := accepts_or_refuses lookup
  · cases h.symm.trans hc.ofVariables
  · exact Except.error.inj (h.symm.trans he'.ofVariables) ▸ he'

/-- What settings are read from variables, and when. -/
structure Loads (lookup : String → Option String) : Prop where
  accepted : ∀ c, ofVariables lookup = .ok c ↔ Accepts lookup c
  refused : ∀ e, ofVariables lookup = .error e ↔ Refuses lookup e
  exactly : (∃ c, ofVariables lookup = .ok c) ↔
    (∃ n, Gives lookup "PORT" 65535 3000 n) ∧ (∃ url, lookup "DATABASE_URL" = some url) ∧
      ∃ n, Gives lookup "REQUEST_TIMEOUT_SECS" 18446744073709551615 30 n ∧ 0 < n
  alone : ∀ other : String → Option String, (∀ name ∈ names, other name = lookup name) →
    ofVariables other = ofVariables lookup

/-- Settings are read exactly from the variables that are as they should be, the first that is not is
reported with its first fault, and no further variable matters. -/
theorem loads_exactly (lookup : String → Option String) : Loads lookup where
  accepted _ := ofVariables_ok
  refused _ := ofVariables_error
  exactly := by
    constructor
    · rintro ⟨c, hc⟩
      have h := ofVariables_ok.1 hc
      exact ⟨⟨_, h.listenAt⟩, ⟨_, h.database⟩, _, h.timeout, h.positive⟩
    · rintro ⟨⟨place, hlisten⟩, ⟨url, hdatabase⟩, timeout, htimeout, hpositive⟩
      obtain ⟨c, hc⟩ := exists_accepts hlisten hdatabase htimeout hpositive
      exact ⟨c, hc.ofVariables⟩
  alone other h := by
    simp only [names, List.forall_mem_cons] at h
    obtain ⟨hlisten, hdatabase, hgatewayA, hgatewayB, htimeout, hcollector, -⟩ := h
    rw [ofVariables, ofVariables, hlisten, hdatabase, hgatewayA, hgatewayB, htimeout, hcollector]

end Config
end Purse
