/-
Calls to the validation service and what they come to.

The service owns the schema of the show.  It is asked to check a document, or for the schema
itself, and its status alone decides the class of the outcome: no body turns an error into an
acceptance or into an error of another kind.  A call is made once; who wants another one submits
the document again.
-/
import ShowControl.Http.Status
import ShowControl.Validation.Rejection

namespace ShowControl.Validation

/-- A question to the service. -/
inductive Call where
  /-- Does this document conform to the schema? -/
  | validate (document : Fields)
  | schema

/-- The path under the base address of the service. -/
def Call.path : Call → String
  | validate _ => "/validate"
  | schema => "/schema"

/-- The base address without the slashes at its end, ready for a path. -/
def baseAddress (address : String) : String :=
  String.ofList (address.toList.reverse.dropWhile (· == '/')).reverse

/-- What comes back for a call. -/
inductive Reply where
  | unreachable
  | answered (status : Nat) (body : List UInt8)

/-- The fault of a service that cannot be reached. -/
def unreachable : Fault := .gateway "Validation service unreachable"

/-- The fault of a status that means nothing for a call. -/
def unexpected (status : Nat) : Fault :=
  .gateway ("Validation service returned unexpected status " ++ Http.statusText status)

/-- The fault of a service that lacks its schema. -/
def schemaMissing (body : List UInt8) : Fault :=
  .notFound (wording "Schema not found" (detail body))

/-- The judgement over a document. -/
def verdict : Reply → Except Fault Unit
  | .unreachable => .error unreachable
  | .answered status body =>
    if status = 200 then .ok ()
    else if status = 400 then .error (.refused (rejection (detail body)))
    else if status = 500 then .error (schemaMissing body)
    else .error (unexpected status)

/-- The schema document. -/
def schemaDocument : Reply → Except Fault Json
  | .unreachable => .error unreachable
  | .answered status body =>
    if status = 200 then
      match (Text.Utf8.decode? body).bind Json.read? with
      | some schema => .ok schema
      | none => .error (.gateway "Schema is not valid JSON")
    else if status = 500 then .error (schemaMissing body)
    else .error (unexpected status)

end ShowControl.Validation
