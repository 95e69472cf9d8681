import Purse.Json.Flaw

/-!
# The tokens of JSON

Blanks, words, numbers and strings. A string that is read must spell characters: a surrogate escape needs
its other half. A string that is skipped needs only well-formed escapes. Neither may hold a raw control
character. A number that is read must lie in the range of doubles; one that is skipped may have any size.
-/
namespace Purse.Json

/-- The four characters that may stand between tokens. -/
def isBlank (c : Char) : Bool := c = ' ' || c = '\n' || c = '\t' || c = '\r'

def afterBlanks (cs : List Char) : List Char := cs.dropWhile isBlank

/-- The rest after the given word. -/
def afterWord : List Char → List Char → Except Flaw (List Char)
  | [], cs => .ok cs
  | _ :: _, [] => .error (.within .endInValue [])
  | w :: word, c :: cs => if w = c then afterWord word cs else .error (.within .badWord (c :: cs))

/-- The rest after blanks and a colon. -/
def afterColon (cs : List Char) : Except Flaw (List Char) :=
  match afterBlanks cs with
  | ':' :: rest => .ok rest
  | [] => .error (.within .endInObject [])
  | rest => .error (.within .noColon rest)

/-- The number that four hexadecimal digits spell. -/
def hexWord? (a b c d : Char) : Option Nat := do
  let a ← hexDigit? a
  let b ← hexDigit? b
  let c ← hexDigit? c
  let d ← hexDigit? d
  some (((a.val * 16 + b.val) * 16 + c.val) * 16 + d.val)

/-- The character of an escape of one letter. -/
def shortEscape? (c : Char) : Option Char :=
  match c with
  | '"' => some '"'
  | '\\' => some '\\'
  | '/' => some '/'
  | 'b' => some (Char.ofNat 8)
  | 'f' => some (Char.ofNat 12)
  | 'n' => some '\n'
  | 'r' => some '\r'
  | 't' => some '\t'
  | _ => none

/-- Whether a code unit is the first, or the second, of a surrogate pair. -/
def isHighSurrogate (n : Nat) : Bool := 0xD800 ≤ n && n ≤ 0xDBFF
def isLowSurrogate (n : Nat) : Bool := 0xDC00 ≤ n && n ≤ 0xDFFF

/-- The character of a surrogate pair. -/
def pairChar (high low : Nat) : Char := Char.ofNat (0x10000 + (high - 0xD800) * 0x400 + (low - 0xDC00))

/-- The flaw of an escape whose four hexadecimal digits are missing or others. They are taken as bytes. -/
def badHex (cs : List Char) : Flaw :=
  if Text.size cs < 4 then .before .endInText []
  else ⟨.malformed .badEscape, .settled (Text.size cs - 4)⟩

/-- The flaw of a first half of a surrogate pair that something else follows than an escape. -/
def badPair : List Char → Flaw
  | [] => .before .endInText []
  | '\\' :: [] => .before .endInText []
  | '\\' :: 'u' :: rest => badHex rest
  | '\\' :: rest => .within .halfSurrogate rest
  | rest => .within .halfSurrogate rest

/-- Reads a string whose opening quote is already taken; `read` holds the characters so far, the last
one first. -/
def readString (read : List Char) : List Char → Except Flaw (List Char × List Char)
  | [] => .error (.before .endInText [])
  | '"' :: rest => .ok (read.reverse, rest)
  | '\\' :: 'u' :: a :: b :: c :: d :: rest =>
    match hexWord? a b c d with
    | none => .error (badHex (a :: b :: c :: d :: rest))
    | some n =>
      if isLowSurrogate n then .error (.before .loneSurrogate rest)
      else if isHighSurrogate n then
        match rest with
        | '\\' :: 'u' :: e :: f :: g :: h :: rest =>
          match hexWord? e f g h with
          | none => .error (badHex (e :: f :: g :: h :: rest))
          | some m =>
            if isLowSurrogate m then readString (pairChar n m :: read) rest
            else .error (.before .loneSurrogate rest)
        | rest => .error (badPair rest)
      else readString (Char.ofNat n :: read) rest
  | '\\' :: 'u' :: rest => .error (badHex rest)
  | '\\' :: c :: rest =>
    match shortEscape? c with
    | none => .error (.within .badEscape (c :: rest))
    | some e => readString (e :: read) rest
  | c :: rest =>
    if c = '\\' then .error (.before .endInText [])
    else if c.toNat < 32 then .error (.within .controlCharacter (c :: rest))
    else readString (c :: read) rest

/-- The rest after a string whose opening quote is already taken. -/
def afterString : List Char → Except Flaw (List Char)
  | [] => .error (.before .endInText [])
  | '"' :: rest => .ok rest
  | '\\' :: 'u' :: a :: b :: c :: d :: rest =>
    match hexWord? a b c d with
    | none => .error (badHex (a :: b :: c :: d :: rest))
    | some _ => afterString rest
  | '\\' :: 'u' :: rest => .error (badHex rest)
  | '\\' :: c :: rest =>
    match shortEscape? c with
    | none => .error (.within .badEscape (c :: rest))
    | some _ => afterString rest
  | c :: rest =>
    if c = '\\' then .error (.before .endInText [])
    else if c.toNat < 32 then .error (.before .controlCharacter (c :: rest))
    else afterString rest

/-- The flaw of a number that has something else where a digit should be, or nothing. -/
def noDigit (atEnd : Malformation) (cs : List Char) : Flaw :=
  .within (if cs.isEmpty then atEnd else .badNumber) cs

/-- Reads the digits before the point. A leading zero stands alone. -/
def readWhole (atEnd : Malformation) : List Char → Except Flaw (List Char × List Char)
  | '0' :: rest =>
    if (rest.head?.map Char.isDigit).getD false then .error (.within .badNumber rest)
    else .ok (['0'], rest)
  | cs =>
    let run := cs.takeWhile Char.isDigit
    if run.isEmpty then .error (noDigit atEnd cs) else .ok (run, cs.drop run.length)

/-- Reads the digits after the point, if there is a point. -/
def readFraction (atEnd : Malformation) : List Char → Except Flaw (List Char × List Char)
  | '.' :: rest =>
    let run := rest.takeWhile Char.isDigit
    if run.isEmpty then .error (noDigit atEnd rest) else .ok (run, rest.drop run.length)
  | cs => .ok ([], cs)

def readExponent (atEnd : Malformation) (cs : List Char) :
    Except Flaw (Option Exponent × List Char) :=
  let unsigned (negative : Bool) (rest : List Char) : Except Flaw (Option Exponent × List Char) :=
    let run := rest.takeWhile Char.isDigit
    if run.isEmpty then .error (noDigit atEnd rest)
    else .ok (some ⟨negative, run⟩, rest.drop run.length)
  let signed (rest : List Char) : Except Flaw (Option Exponent × List Char) :=
    match rest with
    | '+' :: rest => unsigned false rest
    | '-' :: rest => unsigned true rest
    | _ => unsigned false rest
  match cs with
  | 'e' :: rest => signed rest
  | 'E' :: rest => signed rest
  | _ => .ok (none, cs)

/-- Reads a number of any size; `atEnd` is what is wrong if the text ends inside it. -/
def readNumeral (atEnd : Malformation) (cs : List Char) : Except Flaw (Number × List Char) := do
  let (negative, cs) := match cs with
    | '-' :: rest => (true, rest)
    | _ => (false, cs)
  let (whole, cs) ← readWhole atEnd cs
  let (fraction, cs) ← readFraction atEnd cs
  let (exponent, cs) ← readExponent atEnd cs
  .ok (⟨negative, whole, fraction, exponent⟩, cs)

/-- Reads a number in the range of doubles. -/
def readNumber (cs : List Char) : Except Flaw (Number × List Char) := do
  let (n, rest) ← readNumeral .endInValue cs
  if n.overflows then
    .error ⟨.malformed .numberTooLarge, .settled (Text.size rest + n.exponentExcess)⟩
  else .ok (n, rest)

end Purse.Json
