/-
What the validation service says is wrong with a document.

An error of the service is an envelope around a `detail`.  The detail of a rejection names the
fault in words, under `error` or `message`, and the place in the document as a path; it may also be
a text or anything else, and then it stands for the words itself.  A body that is no envelope
counts as one with a null detail, so whatever the body holds, a rejection stays a rejection.  Of an
envelope the names and the detail are read, and what stands under other names need not even be
well-formed text.
-/
import ShowControl.Fault
import ShowControl.Json.Bytes

namespace ShowControl.Validation

/-! ### The envelope -/

/-- The detail that an envelope holds. -/
def held? (t : Json.Tree) : Option Json := t.bytesValue? (Json.maxDepth - 1)

/-- The detail in an envelope: an object that names it at most once, or an array that holds at most
the detail.  An envelope without one holds null. -/
def enveloped? : Json.Tree → Option Json
  | .array [] => some .null
  | .array [t] => held? t
  | .object members => do
    let members ← members.mapM fun m => (Json.Tree.bytesText? m.1).map (·, m.2)
    match ← Json.Tree.unique? members "detail" with
    | some t => held? t
    | none => return .null
  | _ => none

/-- The detail of an error, null when its body cannot be read. -/
def detail (body : List UInt8) : Json := ((Json.Tree.readBytes? body).bind enveloped?).getD .null

/-- The words of a detail: a text is taken as it is, null says nothing. -/
def wording (standard : String) : Json → String
  | .string s => s
  | .null => standard
  | detail => detail.text

/-! ### Rejections -/

/-- A detail that names a fault and its place. -/
structure Finding where
  error : Option String
  message : Option String
  /-- The way from the document to the place of the fault. -/
  path : List Json

namespace Finding

/-- A text that may be left out or null. -/
def words? : Option Json → Option (Option String)
  | none | some .null => some none
  | some (.string s) => some (some s)
  | _ => none

/-- A path that may be left out. -/
def path? : Option Json → Option (List Json)
  | none => some []
  | some (.array path) => some path
  | _ => none

/-- The finding in a detail: an object with its three parts, or an array of them in order. -/
def ofJson? : Json → Option Finding
  | .object fields => do
    let part := Fields.get? fields
    return ⟨← words? (part "error"), ← words? (part "message"), ← path? (part "path")⟩
  | .array items =>
    if 3 < items.length then none
    else do return ⟨← words? items[0]?, ← words? items[1]?, ← path? items[2]?⟩
  | _ => none

/-- A step of a path: a name as it is, an index as its text. -/
def step : Json → String
  | .string s => s
  | j => j.text

/-- The field of the fault. -/
def field (f : Finding) : String :=
  match f.path with
  | [] => "payload"
  | path => "payload." ++ ".".intercalate (path.map step)

end Finding

/-- What a document should have been. -/
def expected : String := "document conforming to the show schema"

/-- The words of a rejection that gives none. -/
def standardWords : String := "Validation failed"

/-- The refusal that a detail amounts to. -/
def rejection (detail : Json) : Refusal where
  field := ((Finding.ofJson? detail).map Finding.field).getD "payload"
  expected := expected
  message :=
    match Finding.ofJson? detail with
    | some f => (f.error <|> f.message).getD standardWords
    | none => wording standardWords detail

end ShowControl.Validation
