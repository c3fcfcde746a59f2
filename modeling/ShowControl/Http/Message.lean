/-
Requests and responses.
-/
import ShowControl.Fault
import ShowControl.Http.MediaType
import ShowControl.Http.Target
import ShowControl.Json.Tree
import ShowControl.Text.Utf8

namespace ShowControl.Http

/-- What a request wants done.  Names are told apart by case. -/
inductive Method where
  | get
  | head
  | post
  | options
  | other (name : String)
deriving DecidableEq

namespace Method

/-- The method of that name. -/
def named : String → Method
  | "GET" => get
  | "HEAD" => head
  | "POST" => post
  | "OPTIONS" => options
  | name => other name

/-- The name of a method. -/
def name : Method → String
  | get => "GET"
  | head => "HEAD"
  | post => "POST"
  | options => "OPTIONS"
  | other name => name

end Method

/-- A request. -/
structure Request where
  method : Method
  target : Target
  headers : List (String × String)
  body : List UInt8

namespace Request

/-- The first header of that name, which is given in lower case. -/
def header? (r : Request) (name : String) : Option String :=
  (r.headers.find? fun h => h.1.toLower == name).map (·.2)

/-- The greatest length of a body in bytes. -/
def maxLength : Nat := 2097152

/-- The JSON document in the body: the type of the body has to announce it and the length has to be
in bounds.  What follows the document does not matter. -/
def document (r : Request) : Except Fault Json :=
  if !((r.header? "content-type").map fun t => MediaType.isJson t.toList).getD false then
    .error (.badRequest "Expected request with \x60Content-Type: application/json\x60")
  else if maxLength < r.body.length then
    .error (.badRequest "Failed to buffer the request body: length limit exceeded")
  else
    match Json.readFront? (Text.Utf8.readable r.body).1 with
    | some j => .ok j
    | none => .error (.badRequest "Failed to parse the request body as JSON")

end Request

/-- What a response carries. -/
inductive Content where
  | nothing
  | text (s : String)
  | json (document : Json)

/-- A response. -/
structure Response where
  status : Nat
  headers : List (String × String)
  content : Content

namespace Response

/-- A response that carries nothing. -/
def bare (status : Nat) : Response := ⟨status, [], .nothing⟩

/-- A response that carries a JSON document. -/
def json (status : Nat) (document : Json) : Response :=
  ⟨status, [("content-type", "application/json")], .json document⟩

/-- A response that carries a text. -/
def text (status : Nat) (s : String) : Response :=
  ⟨status, [("content-type", "text/plain; charset=utf-8")], .text s⟩

/-- The response to a fault. -/
def fault (f : Fault) : Response := json f.status f.body

/-- The response with a header more. -/
def withHeader (r : Response) (name value : String) : Response :=
  { r with headers := (name, value) :: r.headers }

/-- The response without what it carries. -/
def withoutContent (r : Response) : Response := { r with content := .nothing }

/-- The response made readable for pages of every origin. -/
def shared (r : Response) : Response :=
  (r.withHeader "access-control-expose-headers" "*").withHeader "access-control-allow-origin" "*"

/-- The answer to a page of any origin that asks what it may do. -/
def preflight : Response :=
  ⟨200,
    [("access-control-allow-headers", "*"), ("access-control-allow-methods", "*"),
      ("access-control-allow-origin", "*")],
    .nothing⟩

end Response

end ShowControl.Http
