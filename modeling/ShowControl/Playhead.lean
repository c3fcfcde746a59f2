/-
The playhead.

The playhead is the last position in the show, in seconds, that was reported, and the moment of the
report.  Positions need not grow: a rewind is a report like any other.  A position has to be
finite.
-/
import ShowControl.Fault
import ShowControl.Instant

namespace ShowControl

/-- The last reported position; before the first report it is zero. -/
structure Playhead where
  position : Number.Binary64 := .zero
  updatedAt : Option Instant := none

namespace Playhead

/-- The refusal of a position, with what was found in its place. -/
def refusal (message : String) : Refusal where
  field := "seconds"
  expected := "finite number of seconds"
  message := message

/-- The words for a number that is not finite. -/
def unboundedText : Number.Extended → String
  | .infinite true => "-inf"
  | .infinite false => "inf"
  | .finite x => String.ofList (JsonNumber.layout.write x)
  | .nan => "NaN"

/-- Reports a position. -/
def update (seconds : Number.Extended) (now : Instant) : Except Refusal Playhead :=
  match seconds with
  | .finite x => .ok ⟨x, some now⟩
  | x => .error (refusal (unboundedText x ++ " is not a finite number"))

/-- The position that a report gives. -/
def readSeconds (value : Option Json) : Except Refusal Number.Binary64 :=
  match value with
  | none | some .null => .error (refusal "field is required")
  | some value =>
    match value.finiteNumber? with
    | some x => .ok x
    | none => .error (refusal ("cannot interpret " ++ value.text ++ " as seconds"))

/-- The fields of a playhead in an answer. -/
def fields (p : Playhead) : Fields :=
  [("positionSeconds", .number (.double p.position)),
    ("updatedAt", (p.updatedAt.map Instant.json).getD .null)]

/-- A playhead in an answer. -/
def json (p : Playhead) : Json := .object p.fields

/-- A playhead in an answer with its age, once there was a report. -/
def jsonAt (p : Playhead) (now : Instant) : Json :=
  .object (p.fields ++ (p.updatedAt.map fun t => ("ageMs", Json.count (now.ageMillis t))).toList)

end Playhead

end ShowControl
