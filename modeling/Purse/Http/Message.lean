import Purse.Http.Uri
import Purse.Json
import Purse.Json.Flaw

/-!
# Requests and responses

A request names a method and a target, which is a path and perhaps a query after a question mark; what
follows a number sign is not sent. A target may also be a whole address, of which scheme and server do not
matter. A response has a status code and perhaps a body, which is JSON or a complaint in plain text.
-/
namespace Purse.Http

inductive Method where
  | get
  | head
  | post
  | other (name : String)
  deriving DecidableEq, Repr

namespace Method

def name : Method → String
  | .get => "GET"
  | .head => "HEAD"
  | .post => "POST"
  | .other name => name

/-- The method of a name, letter case included. -/
def ofName (s : String) : Method :=
  if s = "GET" then .get
  else if s = "HEAD" then .head
  else if s = "POST" then .post
  else .other s

end Method

structure Request where
  method : Method
  target : String
  contentType : Option String := none
  body : String := ""
  deriving DecidableEq, Repr

namespace Request

/-- The target from its path on, which is empty if it names only a server. -/
def relativeTarget (r : Request) : List Char :=
  match r.target.toList with
  | '/' :: cs => '/' :: cs
  | cs =>
    match Uri.scheme? cs with
    | some (_, rest) => rest.dropWhile fun c => !Uri.endsServer c
    | none => []

def path (r : Request) : List Char := Uri.pathOf r.relativeTarget

/-- The query of the target, which is empty if there is none. -/
def query (r : Request) : List Char := Uri.queryOf r.relativeTarget

end Request

/-- What is wrong with a request in plain words, and perhaps on which line and in which column of its
body. -/
structure Complaint where
  words : String
  position : Option (Nat × Nat) := none
  deriving DecidableEq, Repr

def Complaint.text (c : Complaint) : String := c.words ++ Json.located c.position

inductive Content where
  | json (value : Json)
  | plain (complaint : Complaint)

structure Response where
  status : Nat
  content : Option Content := none

namespace Response

/-- A response with a JSON body. -/
def ofJson (status : Nat) (value : Json) : Response := ⟨status, some (.json value)⟩

/-- A response with a complaint as its body. -/
def ofComplaint (status : Nat) (complaint : Complaint) : Response := ⟨status, some (.plain complaint)⟩

/-- The JSON body, if there is one. -/
def body (r : Response) : Option Json :=
  match r.content with
  | some (.json value) => some value
  | some (.plain _) | none => none

def text (r : Response) : String :=
  match r.content with
  | none => ""
  | some (.json value) => value.render
  | some (.plain complaint) => complaint.text

@[simp] theorem status_ofJson (status : Nat) (value : Json) : (ofJson status value).status = status := rfl

@[simp] theorem text_ofJson (status : Nat) (value : Json) : (ofJson status value).text = value.render := rfl

@[simp] theorem status_ofComplaint (status : Nat) (complaint : Complaint) :
    (ofComplaint status complaint).status = status := rfl

/-- Whether the request was granted. -/
def isSuccess (r : Response) : Bool := 200 ≤ r.status && r.status < 300

end Response
end Purse.Http
