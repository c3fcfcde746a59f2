/-
The playhead over a session.

A report is a `POST` at the playhead.  It gives a number of seconds, which need not be finite
(`Request.seconds?`); a finite one moves the playhead and is answered with status 200, and any other
report is refused (`report_cases`).  No other request moves the playhead, so a read shows the last
report that was answered with status 200 (`leftBy_after`).

`playhead_over_sessions` adds that the queue has no part in this, nor the playhead in the queue.
-/
import ShowControl.Proofs.Http.HandOut
import ShowControl.Proofs.Http.Halves
import ShowControl.Proofs.Number.Value

namespace ShowControl

/-- The number that a value is or that its text denotes, finite or not. -/
def Json.extended? : Json → Option Number.Extended
  | .number n => some n.nearest
  | .string s => Number.readExtended? (Text.trim s.toList)
  | _ => none

lemma Json.finiteNumber?_eq (j : Json) :
    j.finiteNumber? = j.extended?.bind Number.Extended.finite? := by
  cases j <;> rfl

namespace Http

/-- The number of seconds that a document reports, finite or not. -/
def secondsIn? (document : Json) : Option Number.Extended :=
  (document.field? "seconds").bind Json.extended?

/-- The number of seconds that a request reports. -/
def Request.seconds? (r : Request) : Option Number.Extended :=
  r.document.toOption.bind secondsIn?

/-- A report of a position that was answered with status 200. -/
def Exchange.Reports (x : Exchange) : Prop :=
  x.request.Asks .post .playhead ∧ x.response.status = 200

instance : DecidablePred Exchange.Reports := fun _ => inferInstanceAs (Decidable (_ ∧ _))

/-- The reports of a session that were answered with status 200. -/
def reports (setup : Setup) (visits : List Visit) : List Visit :=
  ((visits.zip (exchanges setup visits)).filter fun p => p.2.Reports).map Prod.fst

/-! ### Reports -/

/-- The reader takes the finite numbers. -/
lemma readSeconds_eq_ok_iff {value : Option Json} {x : Number.Binary64} :
    Playhead.readSeconds value = .ok x ↔ value.bind Json.finiteNumber? = some x := by
  cases value with
  | none => simp [Playhead.readSeconds]
  | some value =>
    rw [Option.bind_some]
    cases value with
    | null => simp [Playhead.readSeconds, Json.finiteNumber?]
    | bool b | number n | string s | array items | object fields =>
      simp only [Playhead.readSeconds]
      cases Json.finiteNumber? _ with
      | none => simp
      | some y => simp

/-- What the reader refuses is the field of the position. -/
lemma field_of_readSeconds {value : Option Json} {refusal : Refusal}
    (h : Playhead.readSeconds value = .error refusal) : refusal.field = "seconds" := by
  unfold Playhead.readSeconds at h
  split at h
  case h_1 | h_2 => cases h; rfl
  case h_3 =>
    split at h
    · cases h
    · cases h; rfl

/-- Only the reader of the field stands between a report and the playhead. -/
lemma reported_object (fields : Fields) (now : Instant) :
    reported (.object fields) now =
      (Playhead.readSeconds (fields.get? "seconds")).map fun x => ⟨x, some now⟩ := by
  simp only [reported]
  cases Playhead.readSeconds (Fields.get? fields "seconds") <;> rfl

lemma secondsIn?_eq_some_iff {document : Json} {x : Number.Binary64} :
    secondsIn? document = some (.finite x) ↔
      (document.field? "seconds").bind Json.finiteNumber? = some x := by
  rw [secondsIn?]
  cases document.field? "seconds" with
  | none => simp
  | some value =>
    rw [Option.bind_some, Option.bind_some, Json.finiteNumber?_eq, Option.bind_eq_some_iff]
    simp only [Number.Extended.finite?_eq_some, exists_eq_right]

/-- A document moves the playhead if it reports a finite number. -/
lemma reported_eq_ok_iff {document : Json} {now : Instant} {p : Playhead} :
    reported document now = .ok p ↔
      ∃ x, secondsIn? document = some (.finite x) ∧ p = ⟨x, some now⟩ := by
  simp only [secondsIn?_eq_some_iff]
  cases document with
  | object fields =>
    have hfield : (Json.object fields).field? "seconds" = Fields.get? fields "seconds" := rfl
    rw [reported_object, hfield]
    simp only [← readSeconds_eq_ok_iff]
    cases Playhead.readSeconds (Fields.get? fields "seconds") with
    | error refusal => simp [Except.map]
    | ok x => simp [Except.map, eq_comm]
  | null | bool b | number n | string s | array items => simp [reported, Json.field?, Json.fields?]

section Requests

variable (setup : Setup) (d : Desk) (o : Occasion) {r : Request}

/-- A report of a finite number moves the playhead, and any other report is refused. -/
lemma report_cases (h : r.Asks .post .playhead) :
    (∃ x document, r.seconds? = some (.finite x) ∧
      handle setup d o r = ⟨(Response.json 200 (reportAck document ⟨x, some o.now⟩)).shared,
        { d with playhead := ⟨x, some o.now⟩ }, []⟩) ∨
    (∀ x, r.seconds? ≠ some (.finite x)) ∧
      ∃ fault, handle setup d o r = ⟨(Response.fault fault).shared, d, []⟩ := by
  rw [handle_report setup d o h, Request.seconds?]
  cases hdoc : r.document with
  | error fault =>
    simp only [updatePlayhead, hdoc]
    exact Or.inr ⟨by rintro x ⟨⟩, fault, rfl⟩
  | ok document =>
    simp only [updatePlayhead, hdoc]
    cases hrep : reported document o.now with
    | error refusal =>
      refine Or.inr ⟨fun x hx => ?_, .refused refusal, rfl⟩
      cases hrep.symm.trans (reported_eq_ok_iff.mpr ⟨x, hx, rfl⟩)
    | ok playhead =>
      obtain ⟨x, hx, rfl⟩ := reported_eq_ok_iff.mp hrep
      exact Or.inl ⟨x, document, hx, rfl⟩

/-- A read shows the playhead. -/
lemma handle_readPlayhead (h : r.Asks .get .playhead) :
    handle setup d o r =
      ⟨(Response.json 200 (d.playhead.jsonAt o.now)).shared, d, []⟩ := by
  rw [handle_of_mem setup d o h.2 (by rw [h.1]; decide), serve, h.1]
  rfl

end Requests

/-! ### Sessions -/

/-- The playhead is as the last report left it, or as it was in the beginning. -/
def LeftBy (p : Playhead) : Option Visit → Prop
  | none => p = {}
  | some v => ∃ x, v.request.seconds? = some (.finite x) ∧ p = ⟨x, some v.occasion.now⟩

section Sessions

variable {setup : Setup}

lemma reports_concat (past : List Visit) (v : Visit) :
    reports setup (past ++ [v]) = reports setup past ++
      if ((deskAfter setup past).receive setup v).1.Reports then [v] else [] := by
  have hlength : past.length = (exchanges setup past).length := (Run.length_outputs _ _ _).symm
  have hexchanges : exchanges setup (past ++ [v]) =
      exchanges setup past ++ [((deskAfter setup past).receive setup v).1] :=
    Run.outputs_concat _ _ _ _
  rw [reports, hexchanges, List.zip_append hlength, List.filter_append, List.map_append]
  congr 1
  by_cases hreports : ((deskAfter setup past).receive setup v).1.Reports
  · simp [hreports]
  · simp [hreports]

/-- Only reports move the playhead. -/
lemma Effect.playhead_of_not_asks {d : Desk} {o : Occasion} {r : Request} {outcome : Outcome}
    (h : Effect setup d o r outcome) (hasks : ¬ r.Asks .post .playhead) :
    outcome.desk.playhead = d.playhead := by
  cases h with
  | queued payload priority asks hdoc hprio happroved => rfl
  | claimed asks => rfl
  | moved document playhead asks hdoc hrep => exact absurd asks hasks
  | idle response calls failed => rfl

/-- What one request keeps. -/
lemma LeftBy.step {d : Desk} {past : List Visit} {v : Visit}
    (h : LeftBy d.playhead past.getLast?) :
    LeftBy (d.receive setup v).2.playhead
      (past ++ if (d.receive setup v).1.Reports then [v] else []).getLast? := by
  by_cases hasks : v.request.Asks .post .playhead
  · rcases report_cases setup d v.occasion hasks with ⟨x, document, hx, hhandle⟩ |
      ⟨-, fault, hhandle⟩
    · have hreports : (d.receive setup v).1.Reports := by
        rw [Desk.receive, hhandle]
        exact ⟨hasks, rfl⟩
      rw [if_pos hreports, List.getLast?_concat, Desk.receive, hhandle]
      exact ⟨x, hx, rfl⟩
    · have hreports : ¬ (d.receive setup v).1.Reports := by
        rw [Desk.receive, hhandle]
        exact fun hreports => fault.status_ne hreports.2
      rw [if_neg hreports, List.append_nil, Desk.receive, hhandle]
      exact h
  · have hreports : ¬ (d.receive setup v).1.Reports := fun hreports => hasks hreports.1
    have hplayhead := (effect_handle setup d v.occasion v.request).playhead_of_not_asks hasks
    rw [if_neg hreports, List.append_nil, Desk.receive, hplayhead]
    exact h

/-- What a whole session keeps. -/
lemma leftBy_after (past : List Visit) :
    LeftBy (deskAfter setup past).playhead (reports setup past).getLast? := by
  induction past using List.reverseRecOn with
  | nil => rfl
  | append_singleton past v ih =>
    rw [deskAfter_concat, reports_concat]
    exact ih.step

end Sessions

/-- **The playhead over sessions.**  After every session:
* a read shows the position of the last report that was answered with status 200, the time of that
  report and its age, or the position zero, no time and no age if there was none;
* a report is answered with status 200 just if it gives a finite number, and leaves the desk alone
  if it is not.

Take any session a second time, where the requests to one half of the desk come again and the others
may be left out or come at other times.  Then the requests to this half are answered as before, up
to ids, timestamps and ages. -/
theorem playhead_over_sessions (setup : Setup) (past : List Visit) :
    (∀ next : Visit, next.request.Asks .get .playhead →
      let x := ((deskAfter setup past).receive setup next).1
      x.response.status = 200 ∧
      match (reports setup past).getLast? with
      | none =>
        x.response.document? =
          some (.object [("positionSeconds", .number (.double .zero)), ("updatedAt", .null)])
      | some last => ∃ position,
        last.request.seconds? = some (.finite position) ∧
        x.response.document? =
          some (.object [("positionSeconds", .number (.double position)),
            ("updatedAt", .string last.occasion.now.text),
            ("ageMs", .count (next.occasion.now.ageMillis last.occasion.now))])) ∧
    (∀ next : Visit, next.request.Asks .post .playhead →
      let x := ((deskAfter setup past).receive setup next).1
      (x.response.status = 200 ↔
        ∃ position, next.request.seconds? = some (.finite position)) ∧
      (x.response.status ≠ 200 → deskAfter setup (past ++ [next]) = deskAfter setup past)) ∧
    ∀ (half : Half) (plan : List Retake), (∀ t ∈ plan, t.Keeps half) →
      seenAt half (exchanges setup (plan.map Retake.visit)) =
        seenAt half (exchanges setup (plan.filterMap Retake.second?)) := by
  refine ⟨?_, ?_, ?_⟩
  · intro next hasks x
    have hx : x = ⟨next.request, (Response.json 200
        ((deskAfter setup past).playhead.jsonAt next.occasion.now)).shared, []⟩ := by
      simp only [x, Desk.receive, handle_readPlayhead setup _ _ hasks]
    have hleft : LeftBy (deskAfter setup past).playhead _ := leftBy_after past
    rw [hx]
    refine ⟨rfl, ?_⟩
    cases hlast : (reports setup past).getLast? with
    | none =>
      rw [hlast] at hleft
      rw [show (deskAfter setup past).playhead = {} from hleft]
      rfl
    | some last =>
      rw [hlast] at hleft
      obtain ⟨position, hposition, hplayhead⟩ := hleft
      rw [hplayhead]
      exact ⟨position, hposition, rfl⟩
  · intro next hasks x
    rw [deskAfter_concat]
    rcases report_cases setup (deskAfter setup past) next.occasion hasks with
      ⟨position, document, hposition, hhandle⟩ | ⟨hno, fault, hhandle⟩
    · have hstatus : x.response.status = 200 := by simp only [x, Desk.receive, hhandle]; rfl
      exact ⟨iff_of_true hstatus ⟨position, hposition⟩, fun hfail => absurd hstatus hfail⟩
    · have hstatus : x.response.status ≠ 200 := by
        simp only [x, Desk.receive, hhandle]
        exact fault.status_ne
      refine ⟨iff_of_false hstatus ?_, fun _ => ?_⟩
      · rintro ⟨position, hposition⟩
        exact hno position hposition
      · rw [Desk.receive, hhandle]
  · intro half plan keeps
    exact (agree_at_half keeps rfl).1

/-- A session of two reports, one of them infinite, with a trigger between them, and the same
session without the trigger or without the reports. -/
theorem playhead_over_sessions_of_two_reports :
    let setup : Setup := ⟨false, ⟨"", "", ""⟩⟩
    let send (m : Method) (path body : String) (now : Int) : Visit :=
      ⟨⟨m, ⟨path.toList, []⟩, [("content-type", "application/json")],
        Text.Utf8.encode body.toList⟩, ⟨⟨now⟩, ⟨"a"⟩, .unreachable⟩⟩
    let report := send .post "/playhead" "\x7b\"seconds\": 12.5\x7d" 1
    let trigger := send .post "/cue/trigger" "\x7b\x7d" 2
    let infinite := send .post "/playhead" "\x7b\"seconds\": \"inf\"\x7d" 3
    let look := send .get "/playhead" "" 4
    let past : List Visit := [report, trigger]
    let later : Occasion := ⟨⟨9⟩, ⟨"b"⟩, .unreachable⟩
    let reportsAgain : List Retake :=
      [⟨report, some later⟩, ⟨trigger, none⟩, ⟨infinite, some later⟩, ⟨look, some later⟩]
    let triggerAgain : List Retake :=
      [⟨report, none⟩, ⟨trigger, some later⟩, ⟨infinite, none⟩, ⟨look, none⟩]
    (∃ last position, (reports setup past).getLast? = some last ∧
      last.request.seconds? = some (.finite position) ∧
      ((deskAfter setup past).receive setup look).1.response.document? =
        some (.object [("positionSeconds", .number (.double position)),
          ("updatedAt", .string last.occasion.now.text),
          ("ageMs", .count (look.occasion.now.ageMillis last.occasion.now))])) ∧
    deskAfter setup (past ++ [infinite]) = deskAfter setup past ∧
    seenAt .playhead (exchanges setup (reportsAgain.map Retake.visit)) =
      seenAt .playhead (exchanges setup (reportsAgain.filterMap Retake.second?)) ∧
    seenAt .queue (exchanges setup (triggerAgain.map Retake.visit)) =
      seenAt .queue (exchanges setup (triggerAgain.filterMap Retake.second?)) := by
  intro setup send report trigger infinite look past later reportsAgain triggerAgain
  obtain ⟨hread, hreport, hhalves⟩ := playhead_over_sessions setup past
  refine ⟨?_, ?_, hhalves .playhead reportsAgain ?_, hhalves .queue triggerAgain ?_⟩
  · have hsome : (reports setup past).getLast?.isSome = true := by decide +kernel
    obtain ⟨last, hlast⟩ := Option.isSome_iff_exists.mp hsome
    obtain ⟨-, hshown⟩ := hread look (by decide)
    rw [hlast] at hshown
    obtain ⟨position, hposition, hdocument⟩ := hshown
    exact ⟨last, position, hlast, hposition, hdocument⟩
  · exact (hreport infinite (by decide)).2 (by decide +kernel)
  · simp only [reportsAgain, List.forall_mem_cons]
    exact ⟨fun _ => ⟨later, rfl, nofun⟩, fun hhalf => absurd hhalf (by decide),
      fun _ => ⟨later, rfl, nofun⟩, fun _ => ⟨later, rfl, nofun⟩, by simp⟩
  · simp only [triggerAgain, List.forall_mem_cons]
    exact ⟨fun hhalf => absurd hhalf (by decide), fun _ => ⟨later, rfl, fun _ => rfl⟩,
      fun hhalf => absurd hhalf (by decide), fun hhalf => absurd hhalf (by decide), by simp⟩

end Http

end ShowControl
