/-!
# Base addresses

Links and requests are made of a base address and what follows it. The slashes at the end of the base do
not count. What a request is sent for is the part of the whole address after the server's name.
-/
namespace Purse

/-- The base address without the slashes at its end. -/
def trimBase (base : String) : String :=
  String.ofList (base.toList.reverse.dropWhile (· = '/')).reverse

/-- What follows the first pair of slashes, or everything if there is none. -/
def afterScheme : List Char → List Char → List Char
  | _, '/' :: '/' :: rest => rest
  | whole, _ :: rest => afterScheme whole rest
  | whole, [] => whole

/-- The part of an address after the server's name. It always starts with a slash. -/
def targetOf (address : String) : String :=
  let whole := address.toList
  let target := (afterScheme whole whole).dropWhile fun c => c ≠ '/' && c ≠ '?' && c ≠ '#'
  match target with
  | '/' :: _ => String.ofList target
  | _ => String.ofList ('/' :: target)

end Purse
