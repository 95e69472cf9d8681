/-!
# Media types

A body is taken for JSON if its media type says so: the type is `application`, and the subtype is `json`
or ends in `+json` after something else. Letter case does not matter. Parameters may follow, each after a
semicolon; blanks may stand before the name of one and after a quoted value.
-/
namespace Purse.Http

/-- Whether a character may stand in a name. -/
def isToken (c : Char) : Bool :=
  c.isAlphanum || "!#$%&'*+-.^_|~".toList.contains c || c.toNat = 96

/-- Whether a character may stand between quotes. -/
def isQuotable (c : Char) : Bool := 31 < c.toNat && c.toNat < 127

/-- How far the reading of parameters has come. -/
inductive ParameterState where
  | beforeName
  | inName
  | beforeValue
  | inValue
  | opened
  | quoted
  | closed
  deriving DecidableEq, Repr

namespace ParameterState

/-- Reads one character. A quoted value has one character at least, whatever that is. -/
def step : ParameterState → Char → Option ParameterState
  | .beforeName, c => if c = ' ' then some .beforeName else if isToken c then some .inName else none
  | .inName, c => if c = '=' then some .beforeValue else if isToken c then some .inName else none
  | .beforeValue, c => if c = '"' then some .opened else if isToken c then some .inValue else none
  | .inValue, c => if c = ';' then some .beforeName else if isToken c then some .inValue else none
  | .opened, c => if isQuotable c then some .quoted else none
  | .quoted, c => if c = '"' then some .closed else if isQuotable c then some .quoted else none
  | .closed, c => if c = ';' then some .beforeName else if c = ' ' then some .closed else none

/-- Whether the text may end here. -/
def isFinal : ParameterState → Bool
  | .beforeName | .beforeValue | .inValue | .closed => true
  | .inName | .opened | .quoted => false

end ParameterState

/-- Whether parameters follow a semicolon. -/
def areParameters (cs : List Char) : Bool :=
  (cs.foldlM ParameterState.step .beforeName).any ParameterState.isFinal

/-- Whether a subtype is `json`, or ends in `+json`, or is `json` up to its last plus sign. A plus sign at
its start is part of the name. -/
def isJsonSubtype (cs : List Char) : Bool :=
  let suffix := (cs.reverse.takeWhile (· ≠ '+')).reverse
  let stem := (cs.reverse.dropWhile (· ≠ '+')).drop 1 |>.reverse
  if stem.isEmpty then cs = "json".toList else suffix = "json".toList || stem = "json".toList

/-- Whether a media type stands for JSON. -/
def isJsonMediaType (s : String) : Bool :=
  let cs := s.toList.map Char.toLower
  cs.takeWhile isToken = "application".toList &&
    match cs.dropWhile isToken with
    | '/' :: rest =>
      isJsonSubtype (rest.takeWhile isToken) &&
        match rest.dropWhile isToken with
        | [] => true
        | ';' :: rest => areParameters rest
        | _ => false
    | _ => false

end Purse.Http
