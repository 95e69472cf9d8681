import Purse.Text

/-!
# Addresses of resources

An address is a path with perhaps a query, or a server, or a scheme, a server and perhaps a path and a
query. What follows a number sign is not part of it. The characters of each part are restricted, and a
server may name a user, a host (in brackets if it holds colons) and one number behind a colon.
-/
namespace Purse.Http

structure Uri where
  scheme : List Char := []
  server : List Char := []
  path : List Char := []
  query : List Char := []
  deriving DecidableEq, Repr

namespace Uri

/-- The greatest length of an address in bytes, and of a scheme. -/
def maxSize : Nat := 65534
def maxScheme : Nat := 64

/-- Whether a character may be part of a scheme. -/
def isSchemeChar (c : Char) : Bool := c.isAlphanum || c = '+' || c = '-' || c = '.' || c = '~'

/-- The scheme in front of a colon and two slashes, and what follows them. -/
def scheme? (cs : List Char) : Option (List Char × List Char) :=
  match cs.dropWhile isSchemeChar with
  | ':' :: '/' :: '/' :: rest =>
    if cs.length ≤ 3 then none else some (cs.takeWhile isSchemeChar, rest)
  | _ => none

/-- Whether a character ends the name of a server. -/
def endsServer (c : Char) : Bool := c = '/' || c = '?' || c = '#'

/-- What has been seen of the name of a server: the colons since the user or the brackets, whether brackets
were opened and closed, whether there was a percent sign since then, and whether the last character ended
the user. -/
structure ServerState where
  colons : Nat := 0
  isOpened : Bool := false
  isClosed : Bool := false
  hasPercent : Bool := false
  isAfterUser : Bool := false
  deriving DecidableEq, Repr

/-- Whether a character may stand in the name of a server without any condition. -/
def isServerChar (c : Char) : Bool := c.isAlphanum || "!$&'()*+,-.;=_~".toList.contains c

/-- Takes up one more character of the name of a server. -/
def ServerState.step (s : ServerState) (c : Char) : Option ServerState :=
  let s' := { s with isAfterUser := false }
  if c = ':' then if 8 ≤ s.colons then none else some { s' with colons := s.colons + 1 }
  else if c = '[' then if s.hasPercent || s.isOpened then none else some { s' with isOpened := true }
  else if c = ']' then
    if !s.isOpened || s.isClosed then none
    else some { s' with isClosed := true, colons := 0, hasPercent := false }
  else if c = '@' then some { s with colons := 0, hasPercent := false, isAfterUser := true }
  else if c = '%' then some { s' with hasPercent := true }
  else if isServerChar c then some s'
  else none

/-- Whether the name of a server may end here. -/
def ServerState.isFinal (s : ServerState) : Bool :=
  s.isOpened == s.isClosed && s.colons ≤ 1 && !s.hasPercent && !s.isAfterUser

/-- Whether a text names a server, or is empty. -/
def isServer (cs : List Char) : Bool := (cs.foldlM ServerState.step {}).any ServerState.isFinal

/-- Whether a character may stand in a path. -/
def isPathChar (c : Char) : Bool :=
  Text.inRanges [(0x21, 0x22), (0x24, 0x3B), (0x3D, 0x3D), (0x40, 0x5F), (0x61, 0x7E), (0x80, 0x10FFFF)]
    c.toNat

/-- Whether a character may stand in a query. -/
def isQueryChar (c : Char) : Bool :=
  Text.inRanges [(0x21, 0x21), (0x24, 0x3B), (0x3D, 0x3D), (0x3F, 0x7E), (0x80, 0x10FFFF)] c.toNat

/-- The path of a target, up to its query. -/
def pathOf (cs : List Char) : List Char := cs.takeWhile fun c => c ≠ '?' && c ≠ '#'

/-- The query of a target, which is empty if there is none. -/
def queryOf (cs : List Char) : List Char :=
  match cs.dropWhile fun c => c ≠ '?' && c ≠ '#' with
  | '?' :: rest => rest.takeWhile (· ≠ '#')
  | _ => []

/-- Adds the path and the query of a target to an address. -/
def withTarget? (u : Uri) (cs : List Char) : Option Uri :=
  if (pathOf cs).all isPathChar && (queryOf cs).all isQueryChar then
    some { u with path := pathOf cs, query := queryOf cs }
  else none

def ofChars? (cs : List Char) : Option Uri :=
  if maxSize < Text.size cs then none
  else
    match cs with
    | [] => none
    | ['*'] => some { path := ['*'] }
    | '/' :: rest => withTarget? {} ('/' :: rest)
    | _ =>
      match scheme? cs with
      | none => if cs.any endsServer || !isServer cs then none else some { server := cs }
      | some (scheme, rest) =>
        let server := rest.takeWhile fun c => !endsServer c
        if maxScheme < scheme.length || server.isEmpty || !isServer server then none
        else withTarget? { scheme, server } (rest.drop server.length)

def ofText? (s : String) : Option Uri := ofChars? s.toList

end Uri
end Purse.Http
