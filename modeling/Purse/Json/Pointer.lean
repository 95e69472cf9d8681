import Purse.Json
import Purse.Numeral

/-!
# Pointers into JSON values

A pointer is empty, or a path of names each after a slash. In a name `~1` stands for a slash and `~0`
for a tilde. An item of an array is named by its position, without a sign or leading zeros.
-/
namespace Purse.Json

/-- The names of a pointer, cut at its slashes. The first is what stands before the first slash. -/
def pointerNames : List Char → List (List Char)
  | [] => [[]]
  | '/' :: cs => [] :: pointerNames cs
  | c :: cs =>
    match pointerNames cs with
    | [] => [[c]]
    | name :: names => (c :: name) :: names

/-- A name without its escapes. -/
def unescapeName : List Char → List Char
  | '~' :: '1' :: cs => '/' :: unescapeName cs
  | '~' :: '0' :: cs => '~' :: unescapeName cs
  | c :: cs => c :: unescapeName cs
  | [] => []

def position? (name : List Char) : Option Nat :=
  match name with
  | '0' :: _ :: _ => none
  | _ => Numeral.natural? name

/-- The part of a value that a name leads to. -/
def child? (v : Json) (name : List Char) : Option Json :=
  match v with
  | .array items => do items[← position? name]?
  | _ => v.member? (String.ofList name)

/-- The part of a value that a pointer leads to. -/
def pointer? (v : Json) (pointer : String) : Option Json :=
  match pointerNames pointer.toList with
  | [] :: names => names.foldlM (fun v name => v.child? (unescapeName name)) v
  | _ => none

end Purse.Json
