/-
Sessions: runs of requests.

A session starts at the empty desk and takes any requests in any order, one at a time, from any
number of clients.  What can be seen of a request from outside is its `Exchange`.

The main result is `effect_handle`: a request brings in a cue, hands one out, moves the playhead, or
leaves the desk alone, and a write that leaves it alone is not answered with status 200.  What a
whole session keeps is shown by these four cases, without a look at how requests are handled.
-/
import ShowControl.Http.Service
import ShowControl.Proofs.Cue.Intake
import ShowControl.Proofs.Run

namespace ShowControl

/-- No fault is answered with status 200. -/
lemma Fault.status_ne (f : Fault) : f.status ≠ 200 := by
  cases f <;> simp [Fault.status]

namespace Http

/-- A request and what it finds besides the state. -/
structure Visit where
  request : Request
  occasion : Occasion

/-- What can be seen of a request: what was asked, the response, and the calls to the validation
service. -/
structure Exchange where
  request : Request
  response : Response
  calls : List Validation.Call

/-- Takes in a request. -/
def Desk.receive (setup : Setup) (d : Desk) (v : Visit) : Exchange × Desk :=
  let outcome := handle setup d v.occasion v.request
  (⟨v.request, outcome.response, outcome.calls⟩, outcome.desk)

/-- What can be seen of a session. -/
def exchanges (setup : Setup) (visits : List Visit) : List Exchange :=
  Run.outputs (Desk.receive setup) {} visits

/-- The state after a session. -/
def deskAfter (setup : Setup) (visits : List Visit) : Desk :=
  Run.after (Desk.receive setup) {} visits

/-- The request has this method and goes to this endpoint. -/
def Request.Asks (r : Request) (m : Method) (e : Endpoint) : Prop :=
  r.method = m ∧ Endpoint.at? r.target.path = some e

instance (r : Request) (m : Method) (e : Endpoint) : Decidable (r.Asks m e) :=
  inferInstanceAs (Decidable (_ ∧ _))

lemma Request.Asks.unique {r : Request} {m m' : Method} {e e' : Endpoint} (h : r.Asks m e)
    (h' : r.Asks m' e') : m = m' ∧ e = e' :=
  ⟨h.1.symm.trans h'.1, Option.some.inj (h.2.symm.trans h'.2)⟩

/-- The document that a response carries. -/
def Response.document? (r : Response) : Option Json :=
  match r.content with
  | .json document => some document
  | _ => none

/-- The document of a response with status 200 to a request of this method to this endpoint. -/
def Exchange.answer? (x : Exchange) (m : Method) (e : Endpoint) : Option Json :=
  if x.request.Asks m e ∧ x.response.status = 200 then x.response.document? else none

/-- The outcome with its response readable for pages of every origin. -/
def Outcome.shared (outcome : Outcome) : Outcome :=
  { outcome with response := outcome.response.shared }

@[simp] lemma Response.status_shared (r : Response) : r.shared.status = r.status := rfl

/-! ### Where a request goes -/

/-- Who may read a path may ask for it and for its head; nothing but `POST` writes. -/
lemma Endpoint.mem_methods {m : Method} {e : Endpoint} :
    m ∈ e.methods ↔
      (m = .get ∨ m = .head) ∧ e.isReadable = true ∨ m = .post ∧ e.isWritable = true := by
  cases e <;> simp [Endpoint.methods, Endpoint.isReadable, Endpoint.isWritable, or_assoc]

section Requests

variable (setup : Setup) (d : Desk) (o : Occasion) {r : Request}

/-- A request at an endpoint that has its method is served there. -/
lemma handle_of_mem {e : Endpoint} (hat : Endpoint.at? r.target.path = some e)
    (hmem : r.method ∈ e.methods) :
    handle setup d o r = (serve setup d o r e).shared := by
  cases hm : r.method with
  | options =>
    -- no endpoint lists this method
    simp [hm, Endpoint.mem_methods] at hmem
  | get | head | post | other name =>
    rw [hm] at hmem
    simp [handle, hm, hat, hmem, Outcome.shared]

/-- A read of the queue leaves the desk alone. -/
lemma handle_queue (h : r.Asks .get .queue) :
    handle setup d o r = ⟨(readQueue d r.target.query).shared, d, []⟩ := by
  rw [handle_of_mem setup d o h.2 (by rw [h.1]; decide), serve, h.1]
  rfl

lemma handle_report (h : r.Asks .post .playhead) :
    handle setup d o r = (updatePlayhead d o r).shared := by
  rw [handle_of_mem setup d o h.2 (by rw [h.1]; decide), serve, h.1]
  rfl

/-- A request that is served nowhere is answered without a look at the state. -/
lemma handle_of_not_mem
    (hno : ∀ e, Endpoint.at? r.target.path = some e → r.method ∉ e.methods) :
    ∃ response : Response, (r.method ≠ .options → response.status ≠ 200) ∧
      ∀ d o, handle setup d o r = ⟨response, d, []⟩ := by
  cases hat : Endpoint.at? r.target.path with
  | none =>
    by_cases hopt : r.method = .options
    · exact ⟨.preflight, fun hne => absurd hopt hne, fun d o => by simp [handle, hopt, hat]⟩
    · exact ⟨(Response.bare 404).shared, fun _ => by simp [Response.bare],
        fun d o => by simp [handle, hat]⟩
  | some e =>
    by_cases hopt : r.method = .options
    · exact ⟨Response.preflight.withHeader "allow" e.allow, fun hne => absurd hopt hne,
        fun d o => by simp [handle, hopt, hat]⟩
    · exact ⟨((Response.bare 405).withHeader "allow" e.allow).shared,
        fun _ => by simp [Response.bare, Response.withHeader],
        fun d o => by simp [handle, hat, hno e hat]⟩

/-- A request is served at an endpoint, or it is answered alike in every state. -/
lemma handle_cases (r : Request) :
    (∃ e, Endpoint.at? r.target.path = some e ∧ r.method ∈ e.methods ∧
      ∀ d o, handle setup d o r = (serve setup d o r e).shared) ∨
    ∃ response : Response, (r.method ≠ .options → response.status ≠ 200) ∧
      ∀ d o, handle setup d o r = ⟨response, d, []⟩ := by
  by_cases hserved : ∃ e, Endpoint.at? r.target.path = some e ∧ r.method ∈ e.methods
  · obtain ⟨e, hat, hmem⟩ := hserved
    exact Or.inl ⟨e, hat, hmem, fun d o => handle_of_mem setup d o hat hmem⟩
  · exact Or.inr (handle_of_not_mem setup fun e hat hmem => hserved ⟨e, hat, hmem⟩)

/-- A read leaves the desk alone. -/
lemma desk_read (r : Request) (e : Endpoint) : (read setup d o r e).desk = d := by
  cases e with
  | schema =>
    rw [read, readSchema]
    split
    · split <;> rfl
    · rfl
  | _ => rfl

end Requests

/-! ### What a request can come to -/

/-- What the sender of a trigger is told when its cue is taken in. -/
def ackOf (d : Desk) (o : Occasion) (priority : Priority) (payload : Fields) : Ack :=
  let receipt := (d.registry.insert o.freshId o.now priority payload).1
  ⟨receipt.id, receipt.sequence, priority, receipt.queueSize⟩

/-- What the reporter of a position is told. -/
def reportAck (document : Json) (playhead : Playhead) : Json :=
  .object [("status", .string "ok"), ("received", document), ("playhead", playhead.json)]

/-- What a request can come to. -/
inductive Effect (setup : Setup) (d : Desk) (o : Occasion) (r : Request) : Outcome → Prop where
  /-- A trigger that passes every check brings in a cue. -/
  | queued (payload : Fields) (priority : Priority) (asks : r.Asks .post .trigger)
      (document : r.document = .ok (.object payload))
      (priority_eq : Priority.ofFields payload = .ok priority)
      (approved : setup.validated = true → Validation.verdict o.reply = .ok ()) :
      Effect setup d o r
        ⟨(Response.json 200 (ackOf d o priority payload).json).shared,
          { d with registry := (d.registry.insert o.freshId o.now priority payload).2 },
          if setup.validated then [.validate payload] else []⟩
  /-- A claim hands out the first cue, if there is one. -/
  | claimed (asks : r.Asks .post .claim) :
      Effect setup d o r
        ⟨(Response.json 200 (claimReport d.registry.claim.1)).shared,
          { d with registry := d.registry.claim.2 }, []⟩
  /-- A report of a position moves the playhead. -/
  | moved (document : Json) (playhead : Playhead) (asks : r.Asks .post .playhead)
      (document_eq : r.document = .ok document)
      (reported_eq : reported document o.now = .ok playhead) :
      Effect setup d o r
        ⟨(Response.json 200 (reportAck document playhead)).shared, { d with playhead }, []⟩
  /-- Any other request leaves the desk alone. -/
  | idle (response : Response) (calls : List Validation.Call)
      (failed : r.method = .post → response.status ≠ 200) :
      Effect setup d o r ⟨response, d, calls⟩

section Effects

variable (setup : Setup) (d : Desk) (o : Occasion) {r : Request}

/-- What is told of a fault leaves the desk alone. -/
lemma Effect.fault (f : Fault) (calls : List Validation.Call) :
    Effect setup d o r ⟨(Response.fault f).shared, d, calls⟩ :=
  .idle _ _ fun _ => f.status_ne

lemma effect_trigger (h : r.Asks .post .trigger) :
    Effect setup d o r (trigger setup d o r).shared := by
  cases hdoc : r.document with
  | error fault =>
    simp only [trigger, hdoc]
    exact .fault setup d o fault []
  | ok document =>
    simp only [trigger, hdoc]
    rcases Intake.submit_cases (if setup.validated then some fun _ => Validation.verdict o.reply
      else none) d.registry o.freshId o.now document with
      ⟨payload, priority, ⟨rfl, hprio, hjudge⟩, hdone⟩ | ⟨fault, checked, -, hdone⟩
    · have happroved : setup.validated = true → Validation.verdict o.reply = .ok () := by
        intro hval
        exact hjudge _ (by rw [hval]; rfl)
      -- whether there was someone to ask shows in the calls only
      have heff : Effect setup d o r _ := .queued payload priority h hdoc hprio happroved
      rw [hdone]
      cases hval : setup.validated with
      | true =>
        rw [hval] at heff
        exact heff
      | false =>
        rw [hval] at heff
        exact heff
    · rw [hdone]
      exact .fault setup d o fault _

lemma effect_updatePlayhead (h : r.Asks .post .playhead) :
    Effect setup d o r (updatePlayhead d o r).shared := by
  cases hdoc : r.document with
  | error fault =>
    simp only [updatePlayhead, hdoc]
    exact .fault setup d o fault []
  | ok document =>
    cases hrep : reported document o.now with
    | error refusal =>
      simp only [updatePlayhead, hdoc, hrep]
      exact .fault setup d o (.refused refusal) []
    | ok playhead =>
      simp only [updatePlayhead, hdoc, hrep]
      exact .moved document playhead h hdoc hrep

/-- **What a request can come to.**  It brings in a cue, hands one out, moves the playhead, or
leaves the desk alone. -/
theorem effect_handle (setup : Setup) (d : Desk) (o : Occasion) (r : Request) :
    Effect setup d o r (handle setup d o r) := by
  rcases handle_cases setup r with ⟨e, hat, hmem, hhandle⟩ | ⟨response, hstatus, hhandle⟩
  · rw [hhandle d o]
    rcases Endpoint.mem_methods.mp hmem with ⟨hread, -⟩ | ⟨hpost, hwrite⟩
    · have hdesk : (serve setup d o r e).desk = d := by
        rcases hread with hm | hm
        · rw [serve, hm]
          exact desk_read setup d o r e
        · rw [serve, hm]
          exact desk_read setup d o r e
      rw [Outcome.shared, hdesk]
      refine .idle _ _ fun hpost => ?_
      rcases hread with hm | hm
      · cases hm.symm.trans hpost
      · cases hm.symm.trans hpost
    · have hserve : serve setup d o r e = write setup d o r e := by rw [serve, hpost]
      rw [hserve]
      cases e with
      | trigger => exact effect_trigger setup d o ⟨hpost, hat⟩
      | claim => exact .claimed ⟨hpost, hat⟩
      | playhead => exact effect_updatePlayhead setup d o ⟨hpost, hat⟩
      | root | health | buildInfo | schema | queue => cases hwrite
  · rw [hhandle d o]
    refine .idle _ _ fun hpost => hstatus ?_
    rw [hpost]
    decide

end Effects

end Http

end ShowControl
