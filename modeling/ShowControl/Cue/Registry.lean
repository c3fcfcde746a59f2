/-
The queue of pending cues.

A cue gets a sequence number when it arrives and keeps it for good.  The registry holds the pending
cues under their order keys, the key that goes first at the front: a higher priority goes before a
lower one, and within a priority the earlier arrival goes first.  The clock has no part in the
order.  `insert` puts a cue in its place, `claim` takes the first one out, and `snapshot` and
`peek` look at them without a change.
-/
import ShowControl.Cue.Priority
import ShowControl.Instant

namespace ShowControl

/-- The name of a cue, given when it arrives. -/
structure CueId where
  text : String
deriving DecidableEq

/-- What has become of a cue. -/
inductive CueState where
  | pending
deriving DecidableEq

/-- The text of a state. -/
def CueState.text : CueState → String
  | pending => "pending"

/-- A cue that was accepted. -/
structure Cue where
  id : CueId
  priority : Priority
  /-- The place in the order of arrival. -/
  sequence : UInt64
  state : CueState
  enqueuedAt : Instant
  /-- The trigger document, unchanged. -/
  payload : Fields

/-- A cue in an answer. -/
def Cue.json (c : Cue) : Json :=
  .object
    [("id", .string c.id.text), ("priority", c.priority.json),
      ("sequence", .nat c.sequence.toNat c.sequence.toNat_lt), ("state", .string c.state.text),
      ("enqueuedAt", c.enqueuedAt.json), ("payload", .object c.payload)]

/-- What the place of a cue depends on. -/
structure OrderKey where
  priority : Priority
  sequence : UInt64
deriving DecidableEq

namespace OrderKey

/-- The key of a cue. -/
def of (c : Cue) : OrderKey := ⟨c.priority, c.sequence⟩

/-- Which of two keys goes first: the higher priority, then the lower sequence. -/
def order (a b : OrderKey) : Ordering :=
  (compare b.priority.value a.priority.value).then (compare a.sequence b.sequence)

end OrderKey

/-- The pending cues and the sequence number of the next arrival. -/
structure Registry where
  nextSequence : UInt64 := 1
  pending : List (OrderKey × Cue) := []

/-- What a new arrival is told. -/
structure Receipt where
  id : CueId
  sequence : UInt64
  /-- How many cues are pending now. -/
  queueSize : Nat
deriving DecidableEq

namespace Registry

/-- The entries with one more in its place; an entry of the same key gives way. -/
def place (key : OrderKey) (cue : Cue) : List (OrderKey × Cue) → List (OrderKey × Cue)
  | [] => [(key, cue)]
  | entry :: rest =>
    match key.order entry.1 with
    | .lt => (key, cue) :: entry :: rest
    | .eq => (key, cue) :: rest
    | .gt => entry :: place key cue rest

/-- The cue that arrives next, were it to arrive now. -/
def arrival (r : Registry) (id : CueId) (now : Instant) (priority : Priority) (payload : Fields) :
    Cue where
  id := id
  priority := priority
  sequence := r.nextSequence
  state := .pending
  enqueuedAt := now
  payload := payload

/-- Takes in a cue. -/
def insert (r : Registry) (id : CueId) (now : Instant) (priority : Priority) (payload : Fields) :
    Receipt × Registry :=
  let cue := r.arrival id now priority payload
  let pending := place (.of cue) cue r.pending
  (⟨id, cue.sequence, pending.length⟩, ⟨r.nextSequence + 1, pending⟩)

/-- Hands out the first cue. -/
def claim (r : Registry) : Option Cue × Registry :=
  match r.pending with
  | [] => (none, r)
  | entry :: rest => (some entry.2, { r with pending := rest })

/-- All pending cues in their order. -/
def snapshot (r : Registry) : List Cue := r.pending.map (·.2)

/-- The first `limit` pending cues. -/
def peek (r : Registry) (limit : Nat) : List Cue := (r.pending.take limit).map (·.2)

/-- How many cues are pending. -/
def size (r : Registry) : Nat := r.pending.length

/-- Whether no cue is pending. -/
def isEmpty (r : Registry) : Bool := r.pending.isEmpty

end Registry

end ShowControl
