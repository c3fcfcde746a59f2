/-
The positions that a report can give.

A report is an object that has its position under `seconds`: a number, or a text that denotes one,
with any blanks around it (`Json.Gives`).  The number has to be finite, and this is asked twice, by
the reader of the field and by the playhead.  The playhead refuses what is not finite and nothing
else (`Playhead.update_eq_error_iff`), and the reader hands on finite numbers only, so no report
fails at the playhead (`reported_object`).

The reader is that of lighting payloads (`readSeconds_eq_ok_iff`), so a number and its text give the
same position.
-/
import ShowControl.Proofs.Http.Playhead
import ShowControl.Proofs.Http.Verdicts
import ShowControl.Proofs.Json.NumberText

namespace ShowControl

open Number (Binary64 Extended)

namespace Playhead

/-- The playhead refuses what is not finite. -/
lemma update_eq_error_iff {seconds : Extended} {now : Instant} :
    (∃ refusal, update seconds now = .error refusal) ↔ ∀ x, seconds ≠ .finite x := by
  cases seconds with
  | finite x => exact iff_of_false nofun fun h => h x rfl
  | infinite negative => exact iff_of_true ⟨_, rfl⟩ nofun
  | nan => exact iff_of_true ⟨_, rfl⟩ nofun

end Playhead

namespace Http

/-- The document is a report of the position. -/
def ReportsSeconds (document : Json) (x : Binary64) : Prop :=
  ∃ fields value, document = .object fields ∧ Fields.get? fields "seconds" = some value ∧
    Json.Gives value x

lemma reportsSeconds_iff {document : Json} {x : Binary64} :
    ReportsSeconds document x ↔ secondsIn? document = some (.finite x) := by
  rw [secondsIn?_eq_some_iff]
  constructor
  · rintro ⟨fields, value, rfl, hvalue, hx⟩
    exact Option.bind_eq_some_iff.mpr ⟨value, hvalue, Json.finiteNumber?_eq_some_iff.mpr hx⟩
  · intro h
    obtain ⟨value, hfield, hx⟩ := Option.bind_eq_some_iff.mp h
    obtain ⟨fields, hfields, hvalue⟩ := Option.bind_eq_some_iff.mp hfield
    cases document with
    | object =>
      cases hfields
      exact ⟨fields, value, rfl, hvalue, Json.finiteNumber?_eq_some_iff.mp hx⟩
    | _ => cases hfields

lemma ReportsSeconds.unique {document : Json} {x y : Binary64} (hx : ReportsSeconds document x)
    (hy : ReportsSeconds document y) : x = y := by
  have hsame := (reportsSeconds_iff.mp hx).symm.trans (reportsSeconds_iff.mp hy)
  cases hsame
  rfl

/-- Whether a document is a report can be read off its field. -/
lemma exists_reportsSeconds_iff {document : Json} : (∃ x, ReportsSeconds document x) ↔
    ((document.field? "seconds").bind Json.finiteNumber?).isSome = true := by
  simp only [reportsSeconds_iff, secondsIn?_eq_some_iff, Option.isSome_iff_exists]

/-- The field that a refused document is told of. -/
lemma field_of_reported {document : Json} {now : Instant} {refusal : Refusal}
    (h : reported document now = .error refusal) :
    refusal.field = if document.fields?.isSome then "seconds" else "body" := by
  cases document with
  | object fields =>
    rw [reported_object] at h
    cases hread : Playhead.readSeconds (Fields.get? fields "seconds") with
    | error refused =>
      rw [hread] at h
      cases h
      exact field_of_readSeconds hread
    | ok x =>
      rw [hread] at h
      cases h
  | null | bool b | number n | string s | array items =>
    cases h
    rfl

/-- A report of a position is answered and moves the playhead to it, and any other document is
refused. -/
lemma handle_report_of_document (setup : Setup) (d : Desk) (o : Occasion) {r : Request}
    (hasks : r.Asks .post .playhead) {document : Json} (hdoc : r.document = .ok document) :
    (∃ x, ReportsSeconds document x ∧
      handle setup d o r = ⟨(Response.json 200 (reportAck document ⟨x, some o.now⟩)).shared,
        { d with playhead := ⟨x, some o.now⟩ }, []⟩) ∨
    (∀ x, ¬ ReportsSeconds document x) ∧ ∃ refusal : Refusal,
      handle setup d o r = ⟨(Response.fault (.refused refusal)).shared, d, []⟩ ∧
        refusal.field = if document.fields?.isSome then "seconds" else "body" := by
  simp only [handle_report setup d o hasks, updatePlayhead, hdoc, reportsSeconds_iff]
  cases hreported : reported document o.now with
  | error refusal =>
    refine .inr ⟨fun x hx => ?_, refusal, rfl, field_of_reported hreported⟩
    cases hreported.symm.trans (reported_eq_ok_iff.mpr ⟨x, hx, rfl⟩)
  | ok playhead =>
    obtain ⟨x, hx, rfl⟩ := reported_eq_ok_iff.mp hreported
    exact .inl ⟨x, hx, rfl⟩

/-- **The positions that are taken.**  On every desk, with a document of any kind:
* the report is answered with status 200 just if the document is an object with a number under
  `seconds`, or with a text that denotes a finite double, blanks around it aside;
* then the playhead and the answer have exactly this position, and the answer has the document as it
  was received;
* otherwise the desk stays as it was, and the answer is a validation error on `seconds`, or on
  `body` if the document is no object.

The playhead refuses what is not finite, and nothing that the reader of the field has taken.  This
reader takes the numbers that the reader of lighting payloads takes, as the same doubles.  A number
is always taken, and its text, with any blanks around it, is taken as the same position. -/
theorem seconds_taken (setup : Setup) (d : Desk) (o : Occasion) (r : Request) (document : Json)
    (hasks : r.Asks .post .playhead) (hdoc : r.document = .ok document) :
    let outcome := handle setup d o r
    (outcome.response.status = 200 ↔ ∃ x, ReportsSeconds document x) ∧
    (∀ x, ReportsSeconds document x →
      outcome.desk = { d with playhead := ⟨x, some o.now⟩ } ∧
      outcome.response.document? = some (.object
        [("status", .string "ok"), ("received", document),
          ("playhead", .object
            [("positionSeconds", .number (.double x)),
              ("updatedAt", .string o.now.text)])])) ∧
    (outcome.response.status ≠ 200 →
      outcome.desk = d ∧ outcome.response.Fails 400 "VALIDATION_ERROR" ∧
      outcome.response.errorPart? "field" =
        some (.string (if document.fields?.isSome then "seconds" else "body"))) ∧
    (∀ seconds now,
      (∃ refusal, Playhead.update seconds now = .error refusal) ↔ ∀ x, seconds ≠ .finite x) ∧
    (∀ value x now, Playhead.readSeconds value = .ok x →
      Playhead.update (.finite x) now = .ok ⟨x, some now⟩) ∧
    (∀ value x, Playhead.readSeconds (some value) = .ok x ↔ value.finiteNumber? = some x) ∧
    ∀ n : JsonNumber, ∃ x, Playhead.readSeconds (some (.number n)) = .ok x ∧
      ∀ m : Json.Margins,
        Playhead.readSeconds (some (.string (m.around (Json.number n).text))) = .ok x := by
  intro outcome
  have hreader (value : Json) (x : Binary64) :
      Playhead.readSeconds (some value) = .ok x ↔ value.finiteNumber? = some x :=
    readSeconds_eq_ok_iff
  have hgives (value : Json) (x : Binary64) :
      Playhead.readSeconds (some value) = .ok x ↔ value.Gives x :=
    (hreader value x).trans Json.finiteNumber?_eq_some_iff
  have hnumbers (n : JsonNumber) : ∃ x, Playhead.readSeconds (some (.number n)) = .ok x ∧
      ∀ m : Json.Margins,
        Playhead.readSeconds (some (.string (m.around (Json.number n).text))) = .ok x := by
    obtain ⟨x, hnumber, htext⟩ := Json.exists_gives n
    exact ⟨x, (hgives _ x).mpr hnumber, fun m => (hgives _ x).mpr (htext m)⟩
  have hguards : (∀ seconds now, (∃ refusal, Playhead.update seconds now = .error refusal) ↔
        ∀ x, seconds ≠ .finite x) ∧
      ∀ value x now, Playhead.readSeconds value = .ok x →
        Playhead.update (.finite x) now = .ok ⟨x, some now⟩ :=
    ⟨fun _ _ => Playhead.update_eq_error_iff, fun _ _ _ _ => rfl⟩
  rcases handle_report_of_document setup d o hasks hdoc with
    ⟨x, hx, hhandle⟩ | ⟨hnone, refusal, hhandle, hfield⟩
  · have houtcome : outcome = _ := hhandle
    have hok : outcome.response.status = 200 := by rw [houtcome]; rfl
    refine ⟨iff_of_true hok ⟨x, hx⟩, fun y hy => ?_, fun hfail => absurd hok hfail, hguards.1,
      hguards.2, hreader, hnumbers⟩
    rw [hy.unique hx, houtcome]
    exact ⟨rfl, rfl⟩
  · have houtcome : outcome = _ := hhandle
    have hfail : outcome.response.status ≠ 200 := by
      rw [houtcome]
      exact (Fault.refused refusal).status_ne
    refine ⟨iff_of_false hfail (not_exists.mpr hnone), fun x hx => absurd hx (hnone x), fun _ => ?_,
      hguards.1, hguards.2, hreader, hnumbers⟩
    rw [houtcome, ← hfield]
    exact ⟨rfl, fails_fault (.refused refusal), rfl⟩

/-- A text with blanks around a number, a number beyond all doubles, and a document that is no
object. -/
theorem seconds_taken_of_three_bodies :
    let setup : Setup := ⟨false, ⟨"", "", ""⟩⟩
    let o : Occasion := ⟨⟨5⟩, ⟨"a"⟩, .unreachable⟩
    let report (body : String) : Request := ⟨.post, ⟨"/playhead".toList, []⟩,
      [("content-type", "application/json")], Text.Utf8.encode body.toList⟩
    let field (body : String) : Option Json :=
      (handle setup {} o (report body)).response.errorPart? "field"
    (handle setup {} o (report "\x7b\"seconds\": \"\\t+1e3 \"\x7d")).response.status = 200 ∧
    field "\x7b\"seconds\": \"1e999\"\x7d" = some (.string "seconds") ∧
    field "[12]" = some (.string "body") := by
  intro setup o report field
  have hasks (body : String) : (report body).Asks .post .playhead :=
    ⟨rfl, show Endpoint.at? "/playhead".toList = _ by decide +kernel⟩
  have hread {r : Request} {p : Json → Bool} (h : r.document.toOption.any p = true) :
      ∃ document, r.document = .ok document ∧ p document = true := by
    cases hdoc : r.document with
    | error fault => rw [hdoc] at h; cases h
    | ok document => exact ⟨document, rfl, by rwa [hdoc] at h⟩
  have hrefused {body place : String} (h : (report body).document.toOption.any (fun document =>
      ((document.field? "seconds").bind Json.finiteNumber?).isNone &&
        (if document.fields?.isSome then "seconds" else "body") == place) = true) :
      field body = some (.string place) := by
    obtain ⟨document, hdoc, hp⟩ := hread h
    obtain ⟨hnone, hplace⟩ := Bool.and_eq_true_iff.mp hp
    obtain ⟨hstatus, -, hfail, -⟩ :=
      seconds_taken setup {} o (report body) document (hasks body) hdoc
    rw [← beq_iff_eq.mp hplace]
    refine (hfail fun hok => ?_).2.2
    have hsome := exists_reportsSeconds_iff.mp (hstatus.mp hok)
    rw [Option.isNone_iff_eq_none.mp hnone] at hsome
    cases hsome
  refine ⟨?_, hrefused (by decide +kernel), hrefused (by decide +kernel)⟩
  obtain ⟨document, hdoc, hp⟩ := hread (r := report "\x7b\"seconds\": \"\\t+1e3 \"\x7d")
    (p := fun document => ((document.field? "seconds").bind Json.finiteNumber?).isSome)
    (by decide +kernel)
  obtain ⟨hstatus, -⟩ := seconds_taken setup {} o _ document (hasks _) hdoc
  exact hstatus.mpr (exists_reportsSeconds_iff.mpr hp)

end Http

end ShowControl
