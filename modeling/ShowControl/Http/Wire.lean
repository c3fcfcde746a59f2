/-
Requests and responses as bytes.

A request is a line, headers and a body of the length that the headers announce; lines end in
carriage return and line feed, and an empty line ends the headers.  `readRequest` tells whether the
bytes that have come in so far are a request.  A response closes the connection.
-/
import ShowControl.Http.Message
import ShowControl.Http.Status
import ShowControl.Text.Pieces

namespace ShowControl.Http.Wire

/-! ### Heads -/

/-- The lines up to the first empty one, and the bytes after it: `line` is what was read of the
current line and `lines` the lines before it, both the latest first. -/
def readHead : (line : List UInt8) → (lines : List (List Char)) → List UInt8 →
    Option (List (List Char) × List UInt8)
  | _, _, [] => none
  | line, lines, c :: r =>
    if c == 0x0A then
      match line.dropWhile (· == 0x0D) with
      | [] => some (lines.reverse, r)
      | line => readHead [] (Text.Utf8.decodeLossy line.reverse :: lines) r
    else readHead (c :: line) lines r

/-- A header line parted at its colon, without blanks around the value. -/
def header? (line : List Char) : Option (String × String) :=
  match line.span (· != ':') with
  | (name@(_ :: _), _ :: value) =>
    some (String.ofList (name.map Char.toLower), String.ofList (Text.trim value))
  | _ => none

/-- The words of a line. -/
def words (line : List Char) : List (List Char) := Text.filledPieces ' ' line

/-- The length of the body that headers announce. -/
def contentLength (headers : List (String × String)) : Option Nat :=
  match headers.lookup "content-length" with
  | none => some 0
  | some value => ((Number.readInteger .unsigned64 value.toList).toOption).map Int.toNat

/-! ### Requests -/

/-- What bytes amount to. -/
inductive Received where
  /-- More is to come. -/
  | incomplete
  | malformed
  | complete (r : Request)

/-- What the bytes that have come in so far amount to. -/
def readRequest (bytes : List UInt8) : Received :=
  match readHead [] [] bytes with
  | none => .incomplete
  | some ([], _) => .malformed
  | some (line :: rest, body) =>
    match words line, rest.mapM header? with
    | [method, target, _], some headers =>
      match contentLength headers with
      | none => .malformed
      | some length =>
        if body.length < length then .incomplete
        else
          .complete
            { method := .named (String.ofList method), target := .ofText target, headers,
              body := body.take length }
    | _, _ => .malformed

/-! ### Responses -/

/-- The bytes that a response carries. -/
def contentBytes : Content → List UInt8
  | .nothing => []
  | .text s => Text.Utf8.encode s.toList
  | .json document => Text.Utf8.encode document.chars

/-- The bytes of a head. -/
def headBytes (line : String) (headers : List (String × String)) : List UInt8 :=
  let lines := line :: headers.map fun (name, value) => name ++ ": " ++ value
  Text.Utf8.encode ((lines.flatMap fun l => l.toList ++ ['\r', '\n']) ++ ['\r', '\n'])

/-- The bytes of a response. -/
def responseBytes (r : Response) : List UInt8 :=
  let content := contentBytes r.content
  let length := String.ofList (Number.natText content.length)
  headBytes ("HTTP/1.1 " ++ statusText r.status)
    (r.headers ++ [("content-length", length), ("connection", "close")]) ++ content

end ShowControl.Http.Wire
