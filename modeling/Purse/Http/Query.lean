import Purse.Http.Percent
import Purse.Message

/-!
# Query strings

A query is a list of fields with ampersands between them, each a name and a value with an equals sign in
between. A plus sign stands for a blank, and percent encoding is undone. A page query reads `limit` and
`offset`, each at most once and with a value that is an integer of 64 bits. Other fields are passed over.
-/
namespace Purse.Http

/-- A part of a field as plain text. -/
def formText? (cs : List Char) : Option String :=
  percentDecode? (cs.map fun c => if c = '+' then ' ' else c)

def formField (cs : List Char) : Option String × Option String :=
  (formText? (cs.takeWhile (· ≠ '=')), formText? ((cs.dropWhile (· ≠ '=')).drop 1))

/-- The fields of a query. Nothing between two ampersands is no field. -/
def formFields (cs : List Char) : List (Option String × Option String) :=
  ((splitAt '&' cs).filter fun part => !part.isEmpty).map formField

/-- Reads the number of that name, which may be missing but not repeated. -/
def formNumber? (name : String) (fields : List (Option String × Option String)) :
    Option (Option Int) :=
  match fields.filter (·.1 = some name) with
  | [] => some none
  | [(_, value)] => do
    let n ← Numeral.word? (← value).toList
    some (some n)
  | _ => none

def pageQuery? (cs : List Char) : Option PageQuery := do
  let fields := formFields cs
  let limit ← formNumber? "limit" fields
  let offset ← formNumber? "offset" fields
  some ⟨limit, offset⟩

end Purse.Http
