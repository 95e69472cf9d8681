import Purse.Amount
import Purse.Json
import Purse.Json.Lexeme
import Purse.Json.Skip

/-!
# Typed readers

A reader takes a value of its type off the front of a text. The first problem met in reading order
decides the outcome: the text is malformed, or it is JSON of the wrong kind. A value of the wrong kind
is still looked at as far as is needed to name it: a word, number or string has to be well formed, of an
array or object only the opening is seen.
-/
namespace Purse.Json

/-- What a reader makes of a text: a value and the rest, or a flaw. -/
abbrev Reader (α : Type) := List Char → Except Flaw (α × List Char)

/-- What a text starts with, and the rest. Of an array or object nothing is taken. -/
def readFound (cs : List Char) : Except Flaw (Found × List Char) :=
  match cs with
  | [] => .error (.within .endInValue [])
  | 'n' :: rest => (afterWord "ull".toList rest).map fun rest => (.null, rest)
  | 't' :: rest => (afterWord "rue".toList rest).map fun rest => (.truth true, rest)
  | 'f' :: rest => (afterWord "alse".toList rest).map fun rest => (.truth false, rest)
  | '"' :: rest => (readString [] rest).map fun (s, rest) => (.text (String.ofList s), rest)
  | '[' :: _ => .ok (.list, cs)
  | '\x7b' :: _ => .ok (.object, cs)
  | c :: _ =>
    if c = '-' || c.isDigit then (readNumber cs).map fun (n, rest) => (.number n, rest)
    else .error (.within .noValue cs)

/-- The flaw of a text that starts with something else than was asked for. -/
def misfit (expected : String) (cs : List Char) : Flaw :=
  match readFound cs with
  | .error flaw => flaw
  | .ok (found, rest) => .after (.kind found expected) rest

/-- Reads an integer of 64 bits. -/
def readInt : Reader Int := fun cs =>
  match afterBlanks cs with
  | [] => .error (.within .endInValue [])
  | c :: rest =>
    if c = '-' || c.isDigit then do
      let (n, rest) ← readNumber (c :: rest)
      match n.kept? with
      | none => .error (.after (.kind (.number n) "i64") rest)
      | some i =>
        if Numeral.isWord i then .ok (i, rest) else .error (.after (.range (.number n) "i64") rest)
    else .error (misfit "i64" (c :: rest))

/-- Reads a string; `expected` is what it should have been the form of. -/
def readTextFor (expected : String) : Reader String := fun cs =>
  match afterBlanks cs with
  | '"' :: rest => (readString [] rest).map fun (s, rest) => (String.ofList s, rest)
  | rest => .error (misfit expected rest)

def readText : Reader String := readTextFor "a string"

/-- Reads a truth value. -/
def readBool : Reader Bool := fun cs =>
  match afterBlanks cs with
  | 't' :: rest => do .ok (true, ← afterWord "rue".toList rest)
  | 'f' :: rest => do .ok (false, ← afterWord "alse".toList rest)
  | rest => .error (misfit "a boolean" rest)

def readNull : Reader Unit := fun cs =>
  match afterBlanks cs with
  | 'n' :: rest => do .ok ((), ← afterWord "ull".toList rest)
  | rest => .error (misfit "unit" rest)

def readOption (read : Reader α) : Reader (Option α) := fun cs =>
  match afterBlanks cs with
  | 'n' :: rest => do .ok (none, ← afterWord "ull".toList rest)
  | rest => do
    let (a, rest) ← read rest
    .ok (some a, rest)

/-- Reads a string that has to spell a value; `complain` says what is wrong with one that does not. -/
def readSpelled (expected : String) (ofText? : String → Option α) (complain : String → Mismatch) :
    Reader α := fun cs => do
  let (s, rest) ← readTextFor expected cs
  match ofText? s with
  | none => .error (.after (complain s) rest)
  | some a => .ok (a, rest)

/-- Reads one of some names, either as a string or as the key of an object whose only member is `null`. -/
def readName (known : List String) (ofName? : String → Option α) : Reader α := fun cs =>
  let name : Reader α := readSpelled "variant identifier" ofName? fun s => .unknownName s known
  match afterBlanks cs with
  | [] => .error (.within .endInValue [])
  | '"' :: rest => name ('"' :: rest)
  | '\x7b' :: rest =>
    match afterBlanks rest with
    | [] => .error (.within .endInObject [])
    | '\x7d' :: rest => .error (.within .noValue ('\x7d' :: rest))
    | '"' :: rest => do
      let (a, rest) ← name ('"' :: rest)
      let rest ← afterColon rest
      let (_, rest) ← readNull rest
      match afterBlanks rest with
      | '\x7d' :: rest => .ok (a, rest)
      | [] => .error (.before .endInObject [])
      | rest => .error (.before .noValue rest)
    | rest => .error (.within .keyNotText rest)
  | rest => .error (.within .noValue rest)

/-- Reads a positive amount. One that is not positive is refused without a place of its own. -/
def readAmount : Reader Amount := fun cs => do
  let (n, rest) ← readInt cs
  match Amount.ofInt n with
  | .error cause => .error (.unplaced (.refused cause) rest)
  | .ok a => .ok (a, rest)

/-- The rest of a text after an array, if it ends here. What is wrong with its end does not matter any
more, but a comma is still taken. -/
def leaveArray (cs : List Char) : List Char :=
  match afterBlanks cs with
  | ']' :: rest => rest
  | ',' :: rest => afterBlanks rest
  | rest => rest

/-- The rest of a text after an object, if it ends here. -/
def leaveObject (cs : List Char) : List Char :=
  match afterBlanks cs with
  | '\x7d' :: rest => rest
  | rest => rest

/-- What stands in front of an item: nothing in front of the first one, then a comma. The answer is
`none` at the end of the array, where the closing bracket is left. -/
def nextItem (first : Bool) (cs : List Char) : Except Flaw (Option (List Char)) :=
  match afterBlanks cs with
  | [] => .error (.within .endInList [])
  | ']' :: _ => .ok none
  | c :: rest =>
    if first then .ok (some (c :: rest))
    else if c = ',' then
      match afterBlanks rest with
      | [] => .error (.within .endInValue [])
      | ']' :: rest => .error (.within .trailingComma (']' :: rest))
      | rest => .ok (some rest)
    else .error (.within .noCommaInList (c :: rest))

/-- Reads the remaining items of an array. The closing bracket is left. -/
def readItemsWith (read : Reader α) : Nat → Bool → Reader (List α)
  | 0, _, cs => .error (.before .noValue cs)
  | steps + 1, first, cs => do
    match ← nextItem first cs with
    | none => .ok ([], cs)
    | some rest =>
      let (a, rest) ← read rest
      let (as, rest) ← readItemsWith read steps false rest
      .ok (a :: as, rest)

/-- Takes the closing bracket of an array that is complete. -/
def closeArray (cs : List Char) : Except Flaw (List Char) :=
  match afterBlanks cs with
  | ']' :: rest => .ok rest
  | [] => .error (.within .endInList [])
  | ',' :: rest =>
    match afterBlanks rest with
    | ']' :: rest => .error (.within .trailingComma (']' :: rest))
    | rest => .error (.within .trailingText rest)
  | rest => .error (.within .trailingText rest)

/-- Takes the closing brace of an object that is complete. -/
def closeObject (cs : List Char) : Except Flaw (List Char) :=
  match afterBlanks cs with
  | '\x7d' :: rest => .ok rest
  | [] => .error (.within .endInObject [])
  | ',' :: rest => .error (.within .trailingComma (',' :: rest))
  | rest => .error (.within .trailingText rest)

/-- Reads an array of values of one type. -/
def readList (read : Reader α) : Reader (List α) := fun cs =>
  match afterBlanks cs with
  | '[' :: rest => do
    let (as, rest) ← (readItemsWith read (rest.length + 1) true rest).mapError (.settle leaveArray)
    .ok (as, ← closeArray rest)
  | rest => .error (misfit "a sequence" rest)

/-- Reads a text that holds one value and nothing else but blanks. -/
def decode (read : Reader α) (s : String) : Except Flaw α := do
  let (a, rest) ← read s.toList
  match afterBlanks rest with
  | [] => .ok a
  | rest => .error (.within .trailingText rest)

end Purse.Json
