/-!
# Gateway references

A gateway names each checkout it opens by a reference of twenty-four letters and digits, drawn at random.
-/
namespace Purse

structure Reference where
  chars : List Char
  length_eq : chars.length = 24
  alphanumeric : chars.all Char.isAlphanum = true
  deriving DecidableEq, Repr

namespace Reference

def text (r : Reference) : String := String.ofList r.chars

/-- The letter or digit of a number below sixty-two. -/
def letter (d : Fin 62) : Char :=
  if d.val < 10 then Char.ofNat ('0'.toNat + d.val)
  else if d.val < 36 then Char.ofNat ('A'.toNat + (d.val - 10))
  else Char.ofNat ('a'.toNat + (d.val - 36))

theorem isAlphanum_letter (d : Fin 62) : (letter d).isAlphanum = true := by
  revert d; decide

/-- The last `n` digits of a number to the base of sixty-two. -/
def letters : Nat → Nat → List Char
  | 0, _ => []
  | n + 1, value => letters n (value / 62) ++ [letter (Fin.ofNat 62 value)]

theorem length_letters (n value : Nat) : (letters n value).length = n := by
  induction n generalizing value with
  | zero => rfl
  | succ n ih => simp [letters, ih]

theorem all_letters (n value : Nat) : (letters n value).all Char.isAlphanum = true := by
  induction n generalizing value with
  | zero => rfl
  | succ n ih => simp only [letters, List.all_append, ih, List.all_cons, isAlphanum_letter, List.all_nil,
      Bool.and_true]

def ofRandom (bits : Nat) : Reference := ⟨letters 24 bits, length_letters 24 bits, all_letters 24 bits⟩

end Reference
end Purse
