/-
The paths of the service.

Each path serves reads, writes or both.  Who may read a path may also ask for the head of the
answer alone.  Paths are compared as they are written.
-/
import ShowControl.Http.Message

namespace ShowControl.Http

/-- A path of the service. -/
inductive Endpoint where
  | root
  | health
  | buildInfo
  | trigger
  | claim
  | schema
  | queue
  | playhead
deriving DecidableEq

namespace Endpoint

/-- Every endpoint but the root, in the order in which the root lists them. -/
def listed : List Endpoint := [health, buildInfo, trigger, claim, schema, queue, playhead]

/-- The path of an endpoint. -/
def path : Endpoint → String
  | root => "/"
  | health => "/health"
  | buildInfo => "/build_info"
  | trigger => "/cue/trigger"
  | claim => "/cue/claim"
  | schema => "/cue/schema"
  | queue => "/queue"
  | playhead => "/playhead"

/-- The endpoint of a path. -/
def at? (path : List Char) : Option Endpoint :=
  (root :: listed).find? fun e => e.path.toList == path

/-- Whether an endpoint can be read. -/
def isReadable : Endpoint → Bool
  | trigger | claim => false
  | _ => true

/-- Whether an endpoint can be written to. -/
def isWritable : Endpoint → Bool
  | trigger | claim | playhead => true
  | _ => false

/-- The methods of an endpoint. -/
def methods (e : Endpoint) : List Method :=
  (if e.isReadable then [.get, .head] else []) ++ (if e.isWritable then [.post] else [])

/-- The methods of an endpoint as a header lists them. -/
def allow (e : Endpoint) : String := ",".intercalate (e.methods.map Method.name)

end Endpoint

end ShowControl.Http
