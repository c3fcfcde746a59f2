/-
What can go wrong, and how it is told.

A `Refusal` says which field of a request is at fault, what was expected there and what was found.
A `Fault` is a refusal or one of the other failures of the service.  Each has one wording
(`Fault.message`), one status and one code; whether the client is to blame shows in the status.
-/
import ShowControl.Json.Text

namespace ShowControl

/-- A field of a request that cannot be accepted. -/
structure Refusal where
  field : String
  expected : String
  message : String
deriving DecidableEq

/-- A failure of the service. -/
inductive Fault where
  /-- A field of a request cannot be accepted. -/
  | refused (refusal : Refusal)
  /-- A request cannot be read at all. -/
  | badRequest (text : String)
  /-- Something that the service itself should have is missing. -/
  | notFound (text : String)
  /-- Another service could not be reached or answered with something unexpected. -/
  | gateway (text : String)
  /-- A setting cannot be used. -/
  | configuration (text : String)
  /-- A client for another service cannot be set up. -/
  | client (text : String)
  /-- A file cannot be read. -/
  | io (text : String)
  /-- A settings file cannot be understood. -/
  | file (text : String)
deriving DecidableEq

namespace Fault

/-- The wording of a fault. -/
def message : Fault → String
  | refused r =>
    "Validation failed for '" ++ r.field ++ "': " ++ r.message ++ " (expected " ++ r.expected ++ ")"
  | badRequest text => "Bad request: " ++ text
  | notFound text => "Not found: " ++ text
  | gateway text => "Upstream error: " ++ text
  | configuration text => "Configuration error: " ++ text
  | client text => "HTTP client error: " ++ text
  | io text => "IO error: " ++ text
  | file text => "Configuration error: " ++ text

/-- Whether the client is to blame. -/
def isClientFault : Fault → Bool
  | refused _ | badRequest _ => true
  | _ => false

/-- The status of the answer.  What is missing on the server is not the client's fault. -/
def status : Fault → Nat
  | refused _ | badRequest _ => 400
  | gateway _ => 502
  | _ => 500

/-- The code of the answer. -/
def code : Fault → String
  | refused _ => "VALIDATION_ERROR"
  | badRequest _ => "BAD_REQUEST"
  | notFound _ => "NOT_FOUND"
  | gateway _ => "UPSTREAM_ERROR"
  | configuration _ => "CONFIG_ERROR"
  | client _ => "HTTP_ERROR"
  | io _ | file _ => "COMMON_ERROR"

/-- The body of the answer: a refusal is told by its parts, any other fault by its wording. -/
def body (f : Fault) : Json :=
  let parts : Fields :=
    match f with
    | refused r =>
      [("code", .string f.code), ("expected", .string r.expected), ("field", .string r.field),
        ("message", .string r.message)]
    | _ => [("code", .string f.code), ("message", .string f.message)]
  .object [("error", .object parts)]

end Fault

end ShowControl
