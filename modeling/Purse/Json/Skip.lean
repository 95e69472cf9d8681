import Purse.Json.Lexeme

/-!
# Skipping a value

A value that nobody asked for is passed over: it must be well formed, but its numbers may be of any
size, its strings may hold lone surrogate escapes, and it may be nested to any depth. The steps are
bounded by twice the length of the text, which suffices because every second step takes a character.
-/
namespace Purse.Json

mutual

def skipValue : Nat → List Char → Except Flaw (List Char)
  | 0, cs => .error (.before .noValue cs)
  | steps + 1, cs =>
    match afterBlanks cs with
    | [] => .error (.within .endInValue [])
    | 'n' :: rest => afterWord "ull".toList rest
    | 't' :: rest => afterWord "rue".toList rest
    | 'f' :: rest => afterWord "alse".toList rest
    | '"' :: rest => afterString rest
    | '[' :: rest =>
      match afterBlanks rest with
      | [] => .error (.within .endInList [])
      | ']' :: rest => .ok rest
      | _ => skipItems steps rest
    | '\x7b' :: rest =>
      match afterBlanks rest with
      | '\x7d' :: rest => .ok rest
      | _ => skipMembers steps rest
    | c :: rest =>
      if c = '-' || c.isDigit then (readNumeral .badNumber (c :: rest)).map Prod.snd
      else .error (.within .noValue (c :: rest))

/-- The rest after the items of an array and its closing bracket. -/
def skipItems : Nat → List Char → Except Flaw (List Char)
  | 0, cs => .error (.before .noValue cs)
  | steps + 1, cs => do
    let rest ← skipValue steps cs
    match afterBlanks rest with
    | ',' :: rest => skipItems steps rest
    | ']' :: rest => .ok rest
    | [] => .error (.within .endInList [])
    | rest => .error (.within .noCommaInList rest)

/-- The rest after the members of an object and its closing brace. -/
def skipMembers : Nat → List Char → Except Flaw (List Char)
  | 0, cs => .error (.before .noValue cs)
  | steps + 1, cs =>
    match afterBlanks cs with
    | '"' :: rest => do
      let rest ← afterString rest
      let rest ← afterColon rest
      let rest ← skipValue steps rest
      match afterBlanks rest with
      | ',' :: rest => skipMembers steps rest
      | '\x7d' :: rest => .ok rest
      | [] => .error (.within .endInObject [])
      | rest => .error (.within .noCommaInObject rest)
    | [] => .error (.within .endInObject [])
    | rest => .error (.within .keyNotText rest)

end

/-- The rest after one value that is passed over. -/
def afterValue (cs : List Char) : Except Flaw (List Char) := skipValue (2 * cs.length + 2) cs

end Purse.Json
