/-
Talking to the validation service.

A call is one request on a connection of its own.  Where to connect is read off the base address,
which is an `http` address with or without a port, and the reply is whatever has come back when the
service closes the connection.
-/
import ShowControl.Http.Wire
import ShowControl.Validation.Reply

namespace ShowControl.Validation

/-- Where the service is to be found. -/
structure Site where
  host : String
  port : UInt16
  /-- The path before the path of a call. -/
  path : List Char

/-- The site that a base address names. -/
def Site.ofAddress? (address : String) : Option Site :=
  match address.toList with
  | 'h' :: 't' :: 't' :: 'p' :: ':' :: '/' :: '/' :: r =>
    let (authority, path) := r.span (· != '/')
    match authority.span (· != ':') with
    | ([], _) => none
    | (host, []) => some ⟨String.ofList host, 80, path⟩
    | (host, _ :: port) =>
      match Number.readInteger .unsigned64 port with
      | .ok i => if i < 2 ^ 16 then some ⟨String.ofList host, i.toNat.toUInt16, path⟩ else none
      | .error _ => none
  | _ => none

/-- The request of a call. -/
def Call.requestBytes (c : Call) (site : Site) : List UInt8 :=
  let target := String.ofList (site.path ++ c.path.toList)
  let host := ("host", site.host ++ ":" ++ String.ofList (Number.natText site.port.toNat))
  match c with
  | .schema => Http.Wire.headBytes ("GET " ++ target ++ " HTTP/1.0") [host]
  | .validate document =>
    let body := Text.Utf8.encode (Json.object document).chars
    Http.Wire.headBytes ("POST " ++ target ++ " HTTP/1.0")
      [host, ("content-type", "application/json"),
        ("content-length", String.ofList (Number.natText body.length))] ++ body

/-- The reply that has come back.  What is no response counts as none. -/
def Reply.ofBytes (bytes : List UInt8) : Reply :=
  match Http.Wire.readHead [] [] bytes with
  | some (line :: headers, body) =>
    match Http.Wire.words line with
    | _ :: status :: _ =>
      match Number.readInteger .unsigned64 status with
      | .ok code =>
        match Http.Wire.contentLength (headers.filterMap Http.Wire.header?) with
        | some 0 | none => .answered code.toNat body
        | some length => .answered code.toNat (body.take length)
      | .error _ => .unreachable
    | _ => .unreachable
  | _ => .unreachable

end ShowControl.Validation
