import Mathlib.Data.List.DropRight
import Purse.Gateway
import Purse.Proofs.Numeral

/-!
# What a checkout link tells

The link of a checkout is made of the base address without the slashes at its end, a part that tells the
gateways apart, the reference and the amount. The reference may be any text, also one that looks like the
rest of a link. Still the amount is read off the digits behind the last mark for it, as digits are no part
of a mark, and then what is left in front of the mark is the reference. So no two checkouts of a gateway
have the same link.
-/
namespace Purse

/-! ## The last place of a mark -/

/-- What stands behind the last place of a mark in a text. -/
def afterLast? (mark : List Char) : List Char → Option (List Char)
  | [] => [].dropPrefix? mark
  | c :: cs => (afterLast? mark cs).or ((c :: cs).dropPrefix? mark)

section Mark
variable {front mark rest : List Char} {c : Char}

theorem afterLast?_cons_of_none {cs : List Char} (h : afterLast? mark cs = none) (c : Char) :
    afterLast? mark (c :: cs) = (c :: cs).dropPrefix? mark := by
  rw [afterLast?, h, Option.none_or]

theorem dropPrefix?_mark (mark rest : List Char) : (mark ++ rest).dropPrefix? mark = some rest :=
  List.dropPrefix?_eq_some_iff.2 ⟨mark, rfl, beq_self_eq_true mark⟩

theorem dropPrefix?_absent (hc : c ∉ rest) (mark : List Char) : rest.dropPrefix? (mark ++ [c]) = none := by
  rw [Option.eq_none_iff_forall_ne_some]
  intro tail htail
  obtain ⟨taken, rfl, hmark⟩ := List.dropPrefix?_eq_some_iff.1 htail
  obtain rfl := beq_iff_eq.1 hmark
  simp at hc

/-- A mark that begins before the last place of its last character would end behind it, if it is too long to
end there. -/
theorem dropPrefix?_late (hc : c ∉ rest) (hlong : front.length < mark.length) :
    (front ++ c :: rest).dropPrefix? (mark ++ [c]) = none := by
  rw [Option.eq_none_iff_forall_ne_some]
  intro tail htail
  obtain ⟨taken, htext, hmark⟩ := List.dropPrefix?_eq_some_iff.1 htail
  obtain rfl := beq_iff_eq.1 hmark
  have htext : front ++ c :: rest = mark ++ c :: tail := by
    rw [htext, List.append_assoc, List.singleton_append]
  obtain ⟨between, rfl⟩ : front ++ [c] <+: mark := by
    refine List.prefix_of_prefix_length_le ⟨rest, ?_⟩ (List.prefix_append mark (c :: tail)) ?_
    · rw [List.append_assoc, List.singleton_append, htext]
    · rw [List.length_append]
      exact hlong
  have hrest : rest = between ++ c :: tail := by simpa using htext
  exact hc (hrest ▸ List.mem_append_right between List.mem_cons_self)

theorem afterLast?_absent (hc : c ∉ rest) (mark : List Char) : afterLast? (mark ++ [c]) rest = none := by
  induction rest with
  | nil => exact dropPrefix?_absent hc mark
  | cons d rest ih =>
      rw [afterLast?_cons_of_none (ih fun h => hc (List.mem_cons_of_mem d h)), dropPrefix?_absent hc]

theorem afterLast?_late (hc : c ∉ rest) (hlong : front.length < mark.length) :
    afterLast? (mark ++ [c]) (front ++ c :: rest) = none := by
  induction front with
  | nil =>
      have hdrop : ([] ++ c :: rest).dropPrefix? (mark ++ [c]) = none := dropPrefix?_late hc hlong
      exact (afterLast?_cons_of_none (afterLast?_absent hc mark) c).trans hdrop
  | cons d front ih =>
      have hdrop : (d :: front ++ c :: rest).dropPrefix? (mark ++ [c]) = none :=
        dropPrefix?_late hc hlong
      exact (afterLast?_cons_of_none (ih (Nat.lt_of_succ_lt hlong)) d).trans hdrop

/-- A mark is the last one if its last character does not follow. -/
theorem afterLast?_mark (hc : c ∉ rest) (mark front : List Char) :
    afterLast? (mark ++ [c]) (front ++ (mark ++ c :: rest)) = some rest := by
  induction front with
  | nil =>
      have hdrop : (mark ++ c :: rest).dropPrefix? (mark ++ [c]) = some rest := by
        rw [← List.singleton_append, ← List.append_assoc]
        exact dropPrefix?_mark (mark ++ [c]) rest
      cases mark with
      | nil => exact (afterLast?_cons_of_none (afterLast?_absent hc []) c).trans hdrop
      | cons d mark =>
          have hlate : afterLast? (d :: mark ++ [c]) (mark ++ c :: rest) = none :=
            afterLast?_late hc (Nat.lt_succ_self mark.length)
          exact (afterLast?_cons_of_none hlate d).trans hdrop
  | cons d front ih =>
      rw [List.cons_append, afterLast?, ih]
      rfl

end Mark

/-! ## Base addresses -/

/-- A text is another one without the slashes at its end. -/
structure Trims (base trimmed : String) : Prop where
  slashes : ∃ n, base.toList = trimmed.toList ++ List.replicate n '/'
  rest : trimmed.toList.getLast? ≠ some '/'

theorem toList_trimBase (base : String) :
    (trimBase base).toList = base.toList.rdropWhile fun c => c = '/' := String.toList_ofList

theorem trims_trimBase (base : String) : Trims base (trimBase base) where
  slashes := by
    have hslashes : ∀ c ∈ base.toList.rtakeWhile fun c => c = '/', c = '/' := by
      intro c hc
      simpa using List.mem_rtakeWhile_imp hc
    refine ⟨(base.toList.rtakeWhile fun c => c = '/').length, ?_⟩
    rw [toList_trimBase, ← List.eq_replicate_of_mem hslashes, List.rdropWhile_append_rtakeWhile]
  rest := by
    rw [toList_trimBase]
    intro hlast
    obtain ⟨front, hfront⟩ := List.getLast?_eq_some_iff.1 hlast
    have hslash := List.rdropWhile_last_not (fun c => decide (c = '/')) base.toList (by simp [hfront])
    simp [hfront] at hslash

theorem trimBase_slashes (base : String) (n : Nat) :
    trimBase (base ++ String.ofList (List.replicate n '/')) = trimBase base := by
  rw [trimBase, trimBase, String.toList_append, String.toList_ofList, List.reverse_append,
    List.reverse_replicate, List.dropWhile_append_of_pos]
  intro c hc
  rw [List.eq_of_mem_replicate hc]
  rfl

/-! ## Links -/

/-- What the links of a gateway tell, if its pages are at a path below the base address. -/
structure Identifies (link : String → String → Amount → String) (path : String) : Prop where
  slashes (base : String) (n : Nat) : link (base ++ String.ofList (List.replicate n '/')) = link base
  below (base reference : String) (amount : Amount) :
    ∃ rest, link base reference amount = trimBase base ++ path ++ rest
  injective (base : String) : Function.Injective fun checkout : String × Amount =>
    link base checkout.1 checkout.2
  amount (base reference : String) (amount : Amount) :
    ∃ digits, afterLast? "amount=".toList (link base reference amount).toList = some digits ∧
      (∀ d ∈ digits, d.isDigit) ∧ Numeral.natural? digits = some amount.value.toNat

/-- A link whose parts stand in this order, with a separator between the reference and the amount. -/
def linkText (path separator base reference : String) (amount : Amount) : String :=
  trimBase base ++ path ++ reference ++ separator ++ "amount=" ++ Numeral.ofInt amount.value

theorem Amount.signed_value (amount : Amount) :
    Numeral.signed amount.value = Numeral.digits amount.value.toNat := by
  obtain ⟨value, hpos, hmax⟩ := amount
  cases value with
  | ofNat n => rfl
  | negSucc n => cases hpos

section LinkText
variable (path separator base reference : String) (amount : Amount)

theorem afterLast?_linkText :
    afterLast? "amount=".toList (linkText path separator base reference amount).toList =
      some (Numeral.digits amount.value.toNat) := by
  have hdigits : '=' ∉ Numeral.digits amount.value.toNat := fun h => by
    cases Numeral.isDigit_of_mem_digits h
  have hmark : "amount=".toList = "amount".toList ++ ['='] := by decide
  have hnumeral : (Numeral.ofInt amount.value).toList = Numeral.digits amount.value.toNat := by
    rw [Numeral.ofInt, String.toList_ofList, amount.signed_value]
  have htext : (linkText path separator base reference amount).toList =
      (trimBase base ++ path ++ reference ++ separator).toList ++
        ("amount".toList ++ '=' :: Numeral.digits amount.value.toNat) := by
    rw [linkText, String.toList_append, hnumeral, String.toList_append, hmark, List.append_assoc,
      List.append_assoc, List.singleton_append]
  rw [htext, hmark]
  exact afterLast?_mark hdigits _ _

theorem linkText_injective : Function.Injective fun checkout : String × Amount =>
    linkText path separator base checkout.1 checkout.2 := by
  rintro ⟨reference, amount⟩ ⟨reference', amount'⟩ h
  have hlinks : linkText path separator base reference amount =
      linkText path separator base reference' amount' := h
  have hdigits := afterLast?_linkText path separator base reference amount
  rw [hlinks, afterLast?_linkText, Option.some.injEq] at hdigits
  have hvalues : amount'.value = amount.value := by
    have hnumbers := congrArg (fun ds => Nat.ofDigitChars 10 ds 0) hdigits
    rw [Numeral.ofDigitChars_digits, Numeral.ofDigitChars_digits] at hnumbers
    have hpos := amount.pos
    have hpos' := amount'.pos
    omega
  obtain rfl : amount' = amount := by
    cases amount
    cases amount'
    simpa using hvalues
  rw [linkText, linkText, String.append_left_inj, String.append_left_inj, String.append_left_inj,
    String.append_right_inj] at hlinks
  rw [hlinks]

theorem identifies_linkText : Identifies (linkText path separator) path where
  slashes base n := by
    funext reference amount
    rw [linkText, trimBase_slashes, linkText]
  below base reference amount := by
    refine ⟨reference ++ separator ++ "amount=" ++ Numeral.ofInt amount.value, ?_⟩
    simp only [linkText, String.append_assoc]
  injective base := linkText_injective path separator base
  amount base reference amount :=
    ⟨_, afterLast?_linkText path separator base reference amount,
      fun _ hd => Numeral.isDigit_of_mem_digits hd, Numeral.natural?_digits _⟩

end LinkText

namespace Gateway

theorem linkA_eq : linkA = linkText "/pay/" "?" := by
  funext base reference amount
  have hseparator : "?amount=" = "?" ++ "amount=" := by decide
  simp only [linkA, linkText, hseparator, String.append_assoc]

theorem linkB_eq : linkB = linkText "/checkout?order=" "&" := by
  funext base reference amount
  have hseparator : "&amount=" = "&" ++ "amount=" := by decide
  simp only [linkB, linkText, hseparator, String.append_assoc]

/-- A link of either gateway goes by the base address up to the slashes at its end, lies below it, and tells
the reference and the amount, which is read off the digits behind the last mark for it. -/
theorem links_identify : (∀ base, Trims base (trimBase base)) ∧
    Identifies linkA "/pay/" ∧ Identifies linkB "/checkout?order=" := by
  refine ⟨trims_trimBase, ?_, ?_⟩
  · rw [linkA_eq]
    exact identifies_linkText "/pay/" "?"
  · rw [linkB_eq]
    exact identifies_linkText "/checkout?order=" "&"

end Gateway
end Purse
