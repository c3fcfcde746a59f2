/-
What responses say apart from ids and timestamps.

A mask hides the ids and timestamps that the service puts into a document, and the ages it counts
from them; what a client sent stays as it is, and so does whether there is a value at all.  On the
side of the state, erasing takes all ids and timestamps away.

The two fit together (`masked_handle`): a request comes to the same outcome, up to what is masked,
whether or not the desk and the occasion are erased.  So two desks that agree up to ids and
timestamps give the same responses up to ids and timestamps, and go on to agree
(`masked_handle_congr`).
-/
import ShowControl.Proofs.Http.Session

namespace ShowControl

/-! ### Masks -/

namespace Json

/-- A value of which only whether it is there can be told. -/
def hidden : Json → Json
  | .null => .null
  | _ => .string ""

/-- An object with the values under these names hidden. -/
def hide (names : List String) : Json → Json
  | .object fields =>
    .object (fields.map fun f => if f.1 ∈ names then (f.1, f.2.hidden) else f)
  | j => j

/-- An object with a mask over the value under this name. -/
def hideUnder (name : String) (mask : Json → Json) : Json → Json
  | .object fields => .object (fields.map fun f => if f.1 = name then (f.1, mask f.2) else f)
  | j => j

/-- An array with a mask over each of its items. -/
def hideInItems (mask : Json → Json) : Json → Json
  | .array items => .array (items.map mask)
  | j => j

end Json

/-- The mask of a written cue. -/
def Cue.mask : Json → Json := Json.hide ["id", "enqueuedAt"]

namespace Http

/-- The mask of what an endpoint answers. -/
def Endpoint.mask : Endpoint → Json → Json
  | .trigger => Json.hide ["id"]
  | .claim => Json.hideUnder "cue" Cue.mask
  | .queue => Json.hideUnder "queue" (Json.hideInItems Cue.mask)
  | .playhead =>
    Json.hide ["updatedAt", "ageMs"] ∘ Json.hideUnder "playhead" (Json.hide ["updatedAt"])
  | _ => id

/-- The mask of what a request is answered. -/
def Request.mask (r : Request) : Json → Json :=
  match Endpoint.at? r.target.path with
  | some e => e.mask
  | none => id

/-- A response with a mask over its document. -/
def Response.masked (mask : Json → Json) (r : Response) : Response :=
  match r.content with
  | .json document => { r with content := .json (mask document) }
  | _ => r

/-- What can be seen of a request up to ids and timestamps. -/
def Exchange.masked (x : Exchange) : Exchange :=
  { x with response := x.response.masked x.request.mask }

end Http

/-! ### Erasing -/

/-- A cue without its id and its timestamp. -/
def Cue.erased (c : Cue) : Cue := { c with id := ⟨""⟩, enqueuedAt := ⟨0⟩ }

/-- The queue without ids and timestamps. -/
def Registry.erased (q : Registry) : Registry :=
  { q with pending := q.pending.map fun entry => (entry.1, entry.2.erased) }

/-- An acknowledgement without its id. -/
def Ack.erased (a : Ack) : Ack := { a with id := ⟨""⟩ }

/-- What a submission comes to without ids and timestamps. -/
def Intake.Submission.erased (s : Submission) : Submission :=
  { s with outcome := s.outcome.map Ack.erased, registry := s.registry.erased }

/-- The playhead without its timestamp; whether there was a report is left. -/
def Playhead.erased (p : Playhead) : Playhead :=
  { p with updatedAt := p.updatedAt.map fun _ => ⟨0⟩ }

namespace Http

/-- The state without ids and timestamps. -/
def Desk.erased (d : Desk) : Desk := ⟨d.registry.erased, d.playhead.erased⟩

/-- An occasion without the time and the id. -/
def Occasion.erased (o : Occasion) : Occasion := { o with now := ⟨0⟩, freshId := ⟨""⟩ }

/-- An outcome up to ids and timestamps. -/
def Outcome.masked (mask : Json → Json) (outcome : Outcome) : Outcome :=
  ⟨outcome.response.masked mask, outcome.desk.erased, outcome.calls⟩

end Http

/-! ### The queue -/

@[simp] lemma Json.hidden_string (s : String) : hidden (.string s) = .string "" := rfl

@[simp] lemma Json.hidden_count (n : ℕ) : hidden (.count n) = .string "" := rfl

@[simp] lemma Instant.hidden_json (t : Instant) : t.json.hidden = .string "" := rfl

lemma Cue.mask_json_erased (c : Cue) : Cue.mask c.erased.json = Cue.mask c.json := by
  simp [Cue.mask, Json.hide, Cue.json, Cue.erased]

namespace Registry

lemma erased_place (key : OrderKey) (cue : Cue) (entries : List (OrderKey × Cue)) :
    place key cue.erased (entries.map fun entry => (entry.1, entry.2.erased)) =
      (place key cue entries).map fun entry => (entry.1, entry.2.erased) := by
  induction entries with
  | nil => rfl
  | cons entry rest ih =>
    simp only [List.map_cons, place]
    cases key.order entry.1 with
    | lt => rfl
    | eq => rfl
    | gt => simp only [List.map_cons, ih]

lemma erased_insert (q : Registry) (id : CueId) (now : Instant) (priority : Priority)
    (payload : Fields) :
    q.erased.insert ⟨""⟩ ⟨0⟩ priority payload =
      ({ (q.insert id now priority payload).1 with id := ⟨""⟩ },
        (q.insert id now priority payload).2.erased) := by
  have hplace := erased_place (.of (q.arrival id now priority payload))
    (q.arrival id now priority payload) q.pending
  have hlength := congrArg List.length hplace
  rw [List.length_map] at hlength
  exact Prod.ext (congrArg (Receipt.mk ⟨""⟩ q.nextSequence) hlength)
    (congrArg (Registry.mk (q.nextSequence + 1)) hplace)

lemma erased_claim (q : Registry) :
    q.erased.claim = (q.claim.1.map Cue.erased, q.claim.2.erased) := by
  obtain ⟨next, pending⟩ := q
  cases pending with
  | nil => rfl
  | cons entry rest => rfl

lemma snapshot_erased (q : Registry) : q.erased.snapshot = q.snapshot.map Cue.erased := by
  simp only [snapshot, erased, List.map_map]
  rfl

lemma peek_erased (q : Registry) (limit : ℕ) :
    q.erased.peek limit = (q.peek limit).map Cue.erased := by
  simp only [peek, erased, ← List.map_take, List.map_map]
  rfl

lemma erased_erased (q : Registry) : q.erased.erased = q.erased := by
  simp only [erased, List.map_map]
  rfl

end Registry

/-- Submitting a document comes to the same without ids and timestamps. -/
lemma Intake.erased_submit (check : Option Check) (q : Registry) (id : CueId) (now : Instant)
    (document : Json) :
    submit check q.erased ⟨""⟩ ⟨0⟩ document = (submit check q id now document).erased := by
  have haccept : ∀ priority payload checked,
      accept q.erased ⟨""⟩ ⟨0⟩ priority payload checked =
        (accept q id now priority payload checked).erased := by
    intro priority payload checked
    rw [accept, q.erased_insert id now priority payload]
    rfl
  cases document with
  | object payload =>
    simp only [submit]
    cases Priority.ofFields payload with
    | error refusal => rfl
    | ok priority =>
      cases check with
      | none => exact haccept priority payload []
      | some judge =>
        cases hjudge : judge payload with
        | error fault => simp only [hjudge]; rfl
        | ok => simp only [hjudge]; exact haccept priority payload [payload]
  | null | bool b | number n | string s | array items => rfl

/-! ### The playhead -/

namespace Playhead

lemma erased_erased (p : Playhead) : p.erased.erased = p.erased := by
  obtain ⟨position, updatedAt⟩ := p
  cases updatedAt <;> rfl

@[simp] lemma hidden_updatedAt (p : Playhead) :
    ((p.erased.updatedAt.map Instant.json).getD .null).hidden =
      ((p.updatedAt.map Instant.json).getD .null).hidden := by
  obtain ⟨position, updatedAt⟩ := p
  cases updatedAt with
  | none => rfl
  | some t => simp [erased]

end Playhead

namespace Http

lemma mask_jsonAt_erased (p : Playhead) (now : Instant) :
    Endpoint.playhead.mask (p.erased.jsonAt ⟨0⟩) = Endpoint.playhead.mask (p.jsonAt now) := by
  obtain ⟨position, updatedAt⟩ := p
  cases updatedAt with
  | none => rfl
  | some t =>
    simp [Endpoint.mask, Json.hide, Json.hideUnder, Playhead.jsonAt, Playhead.fields,
      Playhead.erased]

lemma mask_reportAck_erased (document : Json) (p : Playhead) :
    Endpoint.playhead.mask (reportAck document p.erased) =
      Endpoint.playhead.mask (reportAck document p) := by
  have hposition : p.erased.position = p.position := rfl
  simp [Endpoint.mask, Json.hide, Json.hideUnder, reportAck, Playhead.json, Playhead.fields,
    hposition]

/-- A report of a position comes to the same without its timestamp. -/
lemma erased_reported (document : Json) (now : Instant) :
    reported document ⟨0⟩ = (reported document now).map Playhead.erased := by
  cases document with
  | object fields =>
    simp only [reported]
    cases Playhead.readSeconds (Fields.get? fields "seconds") <;> rfl
  | null | bool b | number n | string s | array items => rfl

/-! ### Documents about cues -/

lemma mask_ack_erased (a : Ack) :
    Endpoint.trigger.mask a.erased.json = Endpoint.trigger.mask a.json := by
  simp [Endpoint.mask, Json.hide, Ack.json, Ack.erased]

lemma mask_claimReport_erased (cue : Option Cue) :
    Endpoint.claim.mask (claimReport (cue.map Cue.erased)) =
      Endpoint.claim.mask (claimReport cue) := by
  cases cue with
  | none => rfl
  | some c =>
    have hpayload : c.erased.payload = c.payload := rfl
    simp only [Option.map_some, claimReport, hpayload]
    cases Lighting.handoffFor c.payload <;>
      simp [Endpoint.mask, Json.hideUnder, Cue.mask_json_erased]

lemma mask_queueReport_erased (cues : List Cue) :
    Endpoint.queue.mask (queueReport (cues.map Cue.erased)) =
      Endpoint.queue.mask (queueReport cues) := by
  simp [Endpoint.mask, Json.hideUnder, Json.hideInItems, queueReport, Cue.mask_json_erased]

/-! ### Requests -/

lemma Desk.erased_erased (d : Desk) : d.erased.erased = d.erased := by
  rw [erased, erased, d.registry.erased_erased, d.playhead.erased_erased]

@[simp] lemma Response.masked_shared (mask : Json → Json) (r : Response) :
    r.shared.masked mask = (r.masked mask).shared := by
  obtain ⟨status, headers, content⟩ := r
  cases content <;> rfl

lemma Response.masked_withoutContent (mask : Json → Json) (r : Response) :
    r.withoutContent.masked mask = (r.masked mask).withoutContent := by
  obtain ⟨status, headers, content⟩ := r
  cases content <;> rfl

section Requests

variable (setup : Setup) (d : Desk) (o : Occasion) (r : Request)

/-- What does not depend on the desk stays as it is. -/
lemma Outcome.masked_idle (mask : Json → Json) (response : Response)
    (calls : List Validation.Call) :
    Outcome.masked mask ⟨response, d.erased, calls⟩ = Outcome.masked mask ⟨response, d, calls⟩ := by
  rw [masked, masked, d.erased_erased]

/-- A response is the same up to what the mask hides if its document is. -/
lemma Outcome.masked_json {mask : Json → Json} {document document' : Json}
    (h : mask document' = mask document) (calls : List Validation.Call) :
    Outcome.masked mask ⟨.json 200 document', d.erased, calls⟩ =
      Outcome.masked mask ⟨.json 200 document, d, calls⟩ := by
  have hresponse : (Response.json 200 document').masked mask =
      (Response.json 200 document).masked mask := congrArg (Response.json 200) h
  rw [masked, masked, d.erased_erased, hresponse]

lemma masked_trigger :
    (trigger setup d.erased o.erased r).masked Endpoint.trigger.mask =
      (trigger setup d o r).masked Endpoint.trigger.mask := by
  cases hdoc : r.document with
  | error fault =>
    simp only [trigger, hdoc]
    exact Outcome.masked_idle d _ _ _
  | ok document =>
    have hsubmit := Intake.erased_submit (if setup.validated then
      some fun _ => Validation.verdict o.reply else none) d.registry o.freshId o.now document
    simp only [trigger, hdoc]
    rw [show d.erased.registry = d.registry.erased from rfl,
      show o.erased.freshId = ⟨""⟩ from rfl, show o.erased.now = ⟨0⟩ from rfl,
      show o.erased.reply = o.reply from rfl, hsubmit]
    generalize Intake.submit _ d.registry o.freshId o.now document = s
    obtain ⟨outcome, registry, checked⟩ := s
    cases outcome with
    | error fault => exact Outcome.masked_idle ⟨registry, d.playhead⟩ _ _ _
    | ok ack => exact Outcome.masked_json ⟨registry, d.playhead⟩ (mask_ack_erased ack) _

lemma masked_claim :
    (claim d.erased).masked Endpoint.claim.mask = (claim d).masked Endpoint.claim.mask := by
  have hclaim : d.erased.registry.claim =
      (d.registry.claim.1.map Cue.erased, d.registry.claim.2.erased) := d.registry.erased_claim
  simp only [claim, hclaim]
  exact Outcome.masked_json ⟨d.registry.claim.2, d.playhead⟩ (mask_claimReport_erased _) _

lemma masked_updatePlayhead :
    (updatePlayhead d.erased o.erased r).masked Endpoint.playhead.mask =
      (updatePlayhead d o r).masked Endpoint.playhead.mask := by
  cases hdoc : r.document with
  | error fault =>
    simp only [updatePlayhead, hdoc]
    exact Outcome.masked_idle d _ _ _
  | ok document =>
    have hreported : reported document o.erased.now =
        (reported document o.now).map Playhead.erased := erased_reported document o.now
    simp only [updatePlayhead, hdoc, hreported]
    cases reported document o.now with
    | error refusal => exact Outcome.masked_idle d _ _ _
    | ok playhead =>
      exact Outcome.masked_json ⟨d.registry, playhead⟩ (mask_reportAck_erased document playhead) _

lemma masked_read (e : Endpoint) :
    (read setup d.erased o.erased r e).masked e.mask = (read setup d o r e).masked e.mask := by
  cases e with
  | root | health | buildInfo | trigger | claim => exact Outcome.masked_idle d _ _ _
  | queue =>
    have hsnapshot : d.erased.registry.snapshot = d.registry.snapshot.map Cue.erased :=
      d.registry.snapshot_erased
    have hpeek : ∀ limit, d.erased.registry.peek limit = (d.registry.peek limit).map Cue.erased :=
      d.registry.peek_erased
    simp only [read, readQueue, hsnapshot, hpeek]
    cases Query.limit r.target.query with
    | error fault => exact Outcome.masked_idle d _ _ _
    | ok limit =>
      cases limit with
      | none => exact Outcome.masked_json d (mask_queueReport_erased _) _
      | some limit => exact Outcome.masked_json d (mask_queueReport_erased _) _
  | playhead => exact Outcome.masked_json d (mask_jsonAt_erased d.playhead o.now) _
  | schema =>
    simp only [read, readSchema]
    rw [show o.erased.reply = o.reply from rfl]
    split
    · split
      · exact Outcome.masked_idle d _ _ _
      · exact Outcome.masked_idle d _ _ _
    · exact Outcome.masked_idle d _ _ _

lemma masked_write (e : Endpoint) :
    (write setup d.erased o.erased r e).masked e.mask = (write setup d o r e).masked e.mask := by
  cases e with
  | trigger => exact masked_trigger setup d o r
  | claim => exact masked_claim d
  | playhead => exact masked_updatePlayhead d o r
  | root | health | buildInfo | schema | queue => exact Outcome.masked_idle d _ _ _

lemma masked_serve (e : Endpoint) :
    (serve setup d.erased o.erased r e).masked e.mask = (serve setup d o r e).masked e.mask := by
  simp only [serve]
  cases r.method with
  | get => exact masked_read setup d o r e
  | head =>
    -- what a read carries is dropped, and the rest of the two responses is the same
    have hread := masked_read setup d o r e
    simp only [Outcome.masked, Outcome.mk.injEq] at hread
    obtain ⟨hresponse, hdesk, hcalls⟩ := hread
    simp only [Outcome.masked, Response.masked_withoutContent, hresponse, hdesk, hcalls]
  | post | options | other name => exact masked_write setup d o r e

/-- **Ids and timestamps only come through.**  A request comes to the same outcome, up to what is
masked, on the erased desk and the erased occasion. -/
theorem masked_handle :
    (handle setup d.erased o.erased r).masked r.mask = (handle setup d o r).masked r.mask := by
  rcases handle_cases setup r with ⟨e, hat, -, hhandle⟩ | ⟨response, -, hhandle⟩
  · have hserve := masked_serve setup d o r e
    simp only [Outcome.masked, Outcome.mk.injEq] at hserve
    obtain ⟨hresponse, hdesk, hcalls⟩ := hserve
    rw [hhandle, hhandle]
    simp only [Outcome.masked, Outcome.shared, Request.mask, hat, Response.masked_shared, hresponse,
      hdesk, hcalls]
  · rw [hhandle, hhandle]
    exact Outcome.masked_idle d _ _ _

end Requests

/-- Desks and occasions that agree up to ids and timestamps lead to outcomes that do. -/
theorem masked_handle_congr (setup : Setup) {d d' : Desk} {o o' : Occasion} (r : Request)
    (hd : d.erased = d'.erased) (ho : o.erased = o'.erased) :
    (handle setup d o r).masked r.mask = (handle setup d' o' r).masked r.mask := by
  rw [← masked_handle setup d o r, hd, ho, masked_handle]

end Http

end ShowControl
