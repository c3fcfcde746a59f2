/-
The service: one request in, one response out.

The state behind the service is the queue of pending cues and the playhead; `handle` takes it from
one request to the next.  What a request finds besides the state is its `Occasion`: the time, the
id for a cue it may bring in, and what the validation service replies if it is asked.  The calls to
the validation service are part of the outcome.

Reads leave the state alone.  A request that fails does so too, and pages of every origin may talk
to the service.
-/
import ShowControl.Build
import ShowControl.Cue.Intake
import ShowControl.Http.Endpoint
import ShowControl.Http.Query
import ShowControl.Lighting.Intent
import ShowControl.Playhead
import ShowControl.Validation.Reply

namespace ShowControl.Http

/-- What does not change while the service runs. -/
structure Setup where
  /-- Whether there is a validation service to ask. -/
  validated : Bool
  build : BuildStamp

/-- The state behind the service. -/
structure Desk where
  registry : Registry := {}
  playhead : Playhead := {}

/-- What a request finds besides the state. -/
structure Occasion where
  now : Instant
  freshId : CueId
  /-- What the validation service replies if it is asked. -/
  reply : Validation.Reply

/-- What a request comes to. -/
structure Outcome where
  response : Response
  desk : Desk
  /-- What the validation service was asked. -/
  calls : List Validation.Call

/-! ### About the service -/

/-- What the service is and where to find its parts. -/
def descriptor : Json :=
  .object
    [("service", .string "cue-engine"), ("status", .string "ok"),
      ("endpoints", .array (Endpoint.listed.map fun e => .string e.path))]

/-- The sign of life. -/
def healthReport : Json :=
  .object
    [("status", .string "ok"), ("module", .string "vixio-ce"), ("version", .string version)]

/-- Which build is running. -/
def buildReport (b : BuildStamp) : Json :=
  .object
    [("version", .string version), ("git_hash", .string b.revision),
      ("build_timestamp", .string b.timestamp), ("build_profile", .string b.profile)]

/-! ### The queue -/

/-- Pending cues and their number. -/
def queueReport (cues : List Cue) : Json :=
  .object [("queue", .array (cues.map Cue.json)), ("count", .count cues.length)]

/-- The pending cues, or as many of the first ones as the query asks for. -/
def readQueue (d : Desk) (query : List Char) : Response :=
  match Query.limit query with
  | .ok none => .json 200 (queueReport d.registry.snapshot)
  | .ok (some limit) => .json 200 (queueReport (d.registry.peek limit))
  | .error fault => .text 400 ("Failed to deserialize query string: " ++ fault.message)

/-- Brings in a cue. -/
def trigger (setup : Setup) (d : Desk) (o : Occasion) (r : Request) : Outcome :=
  match r.document with
  | .error fault => ⟨.fault fault, d, []⟩
  | .ok document =>
    let check : Option Intake.Check :=
      if setup.validated then some fun _ => Validation.verdict o.reply else none
    let done := Intake.submit check d.registry o.freshId o.now document
    let response :=
      match done.outcome with
      | .ok ack => Response.json 200 ack.json
      | .error fault => Response.fault fault
    ⟨response, { d with registry := done.registry }, done.checked.map .validate⟩

/-- A claimed cue, with the lighting it asks for, or word that nothing is pending. -/
def claimReport : Option Cue → Json
  | none => .object [("status", .string "empty"), ("cue", .null)]
  | some cue =>
    .object <|
      [("status", .string "claimed"), ("cue", cue.json)] ++
        ((Lighting.handoffFor cue.payload).map fun h => ("lighting", h.json)).toList

/-- Hands out the first cue. -/
def claim (d : Desk) : Outcome :=
  let (cue, registry) := d.registry.claim
  ⟨.json 200 (claimReport cue), { d with registry }, []⟩

/-- The schema of the show. -/
def readSchema (setup : Setup) (d : Desk) (o : Occasion) : Outcome :=
  if setup.validated then
    match Validation.schemaDocument o.reply with
    | .ok schema => ⟨.json 200 schema, d, [.schema]⟩
    | .error fault => ⟨.fault fault, d, [.schema]⟩
  else ⟨.fault (.notFound "No validation service configured"), d, []⟩

/-! ### The playhead -/

/-- The refusal of a report that is no object. -/
def notReport : Refusal where
  field := "body"
  expected := "JSON object"
  message := "playhead update must be an object with a 'seconds' field"

/-- The playhead after a report. -/
def reported (document : Json) (now : Instant) : Except Refusal Playhead :=
  match document with
  | .object fields => do
    let seconds ← Playhead.readSeconds (Fields.get? fields "seconds")
    Playhead.update (.finite seconds) now
  | _ => .error notReport

/-- Reports a position. -/
def updatePlayhead (d : Desk) (o : Occasion) (r : Request) : Outcome :=
  match r.document with
  | .error fault => ⟨.fault fault, d, []⟩
  | .ok document =>
    match reported document o.now with
    | .error refusal => ⟨.fault (.refused refusal), d, []⟩
    | .ok playhead =>
      let ack : Json :=
        .object
          [("status", .string "ok"), ("received", document), ("playhead", playhead.json)]
      ⟨.json 200 ack, { d with playhead }, []⟩

/-! ### All requests -/

/-- The outcome of a read. -/
def read (setup : Setup) (d : Desk) (o : Occasion) (r : Request) : Endpoint → Outcome
  | .root => ⟨.json 200 descriptor, d, []⟩
  | .health => ⟨.json 200 healthReport, d, []⟩
  | .buildInfo => ⟨.json 200 (buildReport setup.build), d, []⟩
  | .queue => ⟨readQueue d r.target.query, d, []⟩
  | .playhead => ⟨.json 200 (d.playhead.jsonAt o.now), d, []⟩
  | .schema => readSchema setup d o
  | .trigger | .claim => ⟨.bare 405, d, []⟩

/-- The outcome of a write. -/
def write (setup : Setup) (d : Desk) (o : Occasion) (r : Request) : Endpoint → Outcome
  | .trigger => trigger setup d o r
  | .claim => claim d
  | .playhead => updatePlayhead d o r
  | _ => ⟨.bare 405, d, []⟩

/-- The outcome of a request at an endpoint that has its method. -/
def serve (setup : Setup) (d : Desk) (o : Occasion) (r : Request) (e : Endpoint) : Outcome :=
  match r.method with
  | .get => read setup d o r e
  | .head =>
    let outcome := read setup d o r e
    { outcome with response := outcome.response.withoutContent }
  | _ => write setup d o r e

/-- The outcome of a request. -/
def handle (setup : Setup) (d : Desk) (o : Occasion) (r : Request) : Outcome :=
  match r.method, Endpoint.at? r.target.path with
  | .options, none => ⟨.preflight, d, []⟩
  | .options, some e => ⟨Response.preflight.withHeader "allow" e.allow, d, []⟩
  | _, none => ⟨(Response.bare 404).shared, d, []⟩
  | _, some e =>
    if r.method ∈ e.methods then
      let outcome := serve setup d o r e
      { outcome with response := outcome.response.shared }
    else ⟨((Response.bare 405).withHeader "allow" e.allow).shared, d, []⟩

end ShowControl.Http
