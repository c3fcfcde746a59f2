/-
Accepting triggers.

A trigger document is checked in three steps: it has to be an object, it has to ask for a priority
that can be understood, and the validation service, where there is one, has to accept it.  Only
then does it enter the queue; a document that fails a step leaves the queue as it was.
-/
import ShowControl.Cue.Registry

namespace ShowControl

/-- What the sender of an accepted trigger is told. -/
structure Ack where
  id : CueId
  sequence : UInt64
  priority : Priority
  queueSize : Nat
deriving DecidableEq

/-- An acknowledgement in an answer. -/
def Ack.json (a : Ack) : Json :=
  .object
    [("status", .string "queued"), ("id", .string a.id.text),
      ("sequence", .nat a.sequence.toNat a.sequence.toNat_lt), ("priority", a.priority.json),
      ("queueSize", .count a.queueSize)]

namespace Intake

/-- The judgement of a validation service over a document. -/
abbrev Check := Fields → Except Fault Unit

/-- The refusal of a document that is no object. -/
def notObject (document : Json) : Refusal where
  field := "body"
  expected := "JSON object"
  message := "got " ++ document.kind

/-- What a submission comes to. -/
structure Submission where
  outcome : Except Fault Ack
  registry : Registry
  /-- The documents that the validation service was asked about. -/
  checked : List Fields

/-- Takes in a document that passed every check. -/
def accept (r : Registry) (id : CueId) (now : Instant) (priority : Priority) (payload : Fields)
    (checked : List Fields) : Submission :=
  let (receipt, r) := r.insert id now priority payload
  ⟨.ok ⟨receipt.id, receipt.sequence, priority, receipt.queueSize⟩, r, checked⟩

/-- Submits a document, to be known by `id`, to a registry. -/
def submit (check : Option Check) (r : Registry) (id : CueId) (now : Instant) (document : Json) :
    Submission :=
  match document with
  | .object payload =>
    match Priority.ofFields payload with
    | .error refusal => ⟨.error (.refused refusal), r, []⟩
    | .ok priority =>
      match check with
      | none => accept r id now priority payload []
      | some judge =>
        match judge payload with
        | .ok () => accept r id now priority payload [payload]
        | .error fault => ⟨.error fault, r, [payload]⟩
  | document => ⟨.error (.refused (notObject document)), r, []⟩

end Intake

end ShowControl
