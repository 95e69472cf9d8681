import Purse.Json
import Purse.Json.Lexeme

/-!
# Reading any value

Here a text is read as a value of whatever shape. Strings must spell characters and numbers must lie in
the range of doubles. Arrays and objects may be nested to a fixed depth, beyond which a text is
refused. The steps are bounded by twice the length of the text.
-/
namespace Purse.Json

mutual

/-- Reads one value, with at most `depth` levels of arrays and objects. -/
def readValue : Nat → Nat → List Char → Option (Json × List Char)
  | 0, _, _ => none
  | steps + 1, depth, cs =>
    match afterBlanks cs with
    | [] => none
    | 'n' :: rest => (afterWord "ull".toList rest).toOption.map fun rest => (.null, rest)
    | 't' :: rest => (afterWord "rue".toList rest).toOption.map fun rest => (.bool true, rest)
    | 'f' :: rest => (afterWord "alse".toList rest).toOption.map fun rest => (.bool false, rest)
    | '"' :: rest => (readString [] rest).toOption.map fun (s, rest) => (.text (String.ofList s), rest)
    | '[' :: rest =>
      match depth with
      | 0 => none
      | depth + 1 =>
        match afterBlanks rest with
        | ']' :: rest => some (.array [], rest)
        | _ => (readItems steps depth rest).map fun (items, rest) => (.array items, rest)
    | '\x7b' :: rest =>
      match depth with
      | 0 => none
      | depth + 1 =>
        match afterBlanks rest with
        | '\x7d' :: rest => some (.object [], rest)
        | _ => (readMembers steps depth rest).map fun (members, rest) => (.object members, rest)
    | rest => (readNumber rest).toOption.map fun (n, rest) => (.number n, rest)

/-- Reads the items of an array and its closing bracket. -/
def readItems : Nat → Nat → List Char → Option (List Json × List Char)
  | 0, _, _ => none
  | steps + 1, depth, cs =>
    match readValue steps depth cs with
    | none => none
    | some (v, rest) =>
      match afterBlanks rest with
      | ',' :: rest => (readItems steps depth rest).map fun (items, rest) => (v :: items, rest)
      | ']' :: rest => some ([v], rest)
      | _ => none

/-- Reads the members of an object and its closing brace. -/
def readMembers : Nat → Nat → List Char → Option (List (String × Json) × List Char)
  | 0, _, _ => none
  | steps + 1, depth, cs =>
    match afterBlanks cs with
    | '"' :: rest =>
      match readString [] rest with
      | .error _ => none
      | .ok (key, rest) =>
        match (afterColon rest).toOption.bind (readValue steps depth) with
        | none => none
        | some (v, rest) =>
          match afterBlanks rest with
          | ',' :: rest =>
            (readMembers steps depth rest).map fun (members, rest) =>
              ((String.ofList key, v) :: members, rest)
          | '\x7d' :: rest => some ([(String.ofList key, v)], rest)
          | _ => none
    | _ => none

end

/-- The deepest nesting that is read. -/
def maxDepth : Nat := 127

/-- Reads a text that holds one value and nothing else but blanks. -/
def parse? (s : String) : Option Json := do
  let cs := s.toList
  let (v, rest) ← readValue (2 * cs.length + 2) maxDepth cs
  if (afterBlanks rest).isEmpty then some v else none

end Purse.Json
