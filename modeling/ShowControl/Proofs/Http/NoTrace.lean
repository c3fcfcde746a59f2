/-
Requests without effect leave no trace.

A request is without effect if it is not answered with status 200, if it only reads, or if it is a
claim that comes away empty.  A session is taken a second time: some of its requests without effect
are left out, and the others come again, at other times and with other ids at hand.  Then those
others are answered as before, up to ids and timestamps, and the queue, the next number and the
playhead are the same in the end (`ineffective_leave_no_trace`).

A request without effect leaves the desk alone (`Effect.desk_of_ineffective`).  For the others the
desks of the two sessions agree up to ids and timestamps, request after request, and what the
validation service would reply matters only if it is asked (`handle_of_not_called`).
-/
import Mathlib.Data.List.Forall2
import ShowControl.Proofs.Http.Masking

namespace ShowControl

/-- What lasts of a cue when its id and its timestamp do not count. -/
def Cue.lasting (c : Cue) : UInt64 × Priority × Fields := (c.sequence, c.priority, c.payload)

namespace Http

/-- A request that is without effect: it fails, it only reads, or it claims nothing. -/
def Exchange.Ineffective (x : Exchange) : Prop :=
  x.response.status ≠ 200 ∨ x.request.method ∈ [Method.get, .head, .options] ∨
    x.request.Asks .post .claim ∧
      (x.response.document?.bind (·.field? "status")).bind Json.text? = some "empty"

/-- A visit of a session that is taken a second time. -/
structure Retake where
  visit : Visit
  /-- What the request finds the second time, unless it is left out. -/
  again : Option Occasion

/-- The visit the second time. -/
def Retake.second? (t : Retake) : Option Visit := t.again.map fun o => ⟨t.visit.request, o⟩

/-- Only requests without effect may be left out, and a request that asks the validation service has
to be given the same reply. -/
structure Retake.Fair (t : Retake) (x : Exchange) : Prop where
  left_out : t.again = none → x.Ineffective
  same_reply : ∀ o, t.again = some o → x.calls ≠ [] → o.reply = t.visit.occasion.reply

/-- What is seen, up to ids and timestamps, of the requests that come again. -/
def keptExchanges (plan : List Retake) (xs : List Exchange) : List Exchange :=
  ((plan.zip xs).filter fun p => p.1.again.isSome).map fun p => p.2.masked

/-! ### The second time -/

section Plan

variable {t : Retake}

lemma Retake.second_cons_of_none (h : t.again = none) (plan : List Retake) :
    (t :: plan).filterMap second? = plan.filterMap second? := by
  simp [second?, h]

lemma Retake.second_cons_of_some {o : Occasion} (h : t.again = some o) (plan : List Retake) :
    (t :: plan).filterMap second? = ⟨t.visit.request, o⟩ :: plan.filterMap second? := by
  simp [second?, h]

end Plan

/-! ### Requests without effect -/

section Requests

variable {setup : Setup} {d : Desk} {o : Occasion} {r : Request}

/-- A write with status 200 anywhere but at the claims is not without effect. -/
lemma Exchange.not_ineffective {x : Exchange} {e : Endpoint} (h : x.request.Asks .post e)
    (hne : e ≠ .claim) (hstatus : x.response.status = 200) : ¬ x.Ineffective := by
  rintro (hfail | hread | ⟨hclaim, -⟩)
  · exact hfail hstatus
  · rw [h.1] at hread
    exact absurd hread (by decide)
  · exact hne (h.unique hclaim).2

/-- A request without effect leaves the desk alone. -/
lemma Effect.desk_of_ineffective {outcome : Outcome} (h : Effect setup d o r outcome)
    (hno : Exchange.Ineffective ⟨r, outcome.response, outcome.calls⟩) : outcome.desk = d := by
  cases h with
  | queued payload priority asks hdoc hprio happroved =>
    exact absurd hno (Exchange.not_ineffective asks (by decide) rfl)
  | claimed asks =>
    rcases hno with hfail | hread | ⟨-, hempty⟩
    · exact absurd rfl hfail
    · have hmethod : r.method ∈ [Method.get, .head, .options] := hread
      rw [asks.1] at hmethod
      exact absurd hmethod (by decide)
    · obtain ⟨⟨next, pending⟩, playhead⟩ := d
      cases pending with
      | nil => rfl
      | cons entry rest =>
        -- the answer to a claim that hands out a cue says so
        have hclaimed : some "claimed" = some "empty" := hempty
        exact absurd hclaimed (by decide)
  | moved document playhead asks hdoc hrep =>
    exact absurd hno (Exchange.not_ineffective asks (by decide) rfl)
  | idle response calls failed => rfl

/-! ### The validation service -/

lemma trigger_of_not_called (h : (trigger setup d o r).calls = []) (reply : Validation.Reply) :
    trigger setup d { o with reply } r = trigger setup d o r := by
  cases hdoc : r.document with
  | error fault => simp only [trigger, hdoc]
  | ok document =>
    simp only [trigger, hdoc] at h ⊢
    cases hval : setup.validated with
    | false => rfl
    | true =>
      simp only [hval, if_true, List.map_eq_nil_iff] at h ⊢
      rw [Intake.submit_of_not_checked h fun _ => Validation.verdict reply]

lemma readSchema_of_not_called (h : (readSchema setup d o).calls = [])
    (reply : Validation.Reply) : readSchema setup d { o with reply } = readSchema setup d o := by
  cases hval : setup.validated with
  | false => simp only [readSchema, hval]; rfl
  | true =>
    simp only [readSchema, hval, if_true] at h
    cases hschema : Validation.schemaDocument o.reply with
    | ok schema => simp [hschema] at h
    | error fault => simp [hschema] at h

lemma read_of_not_called {e : Endpoint} (h : (read setup d o r e).calls = [])
    (reply : Validation.Reply) : read setup d { o with reply } r e = read setup d o r e := by
  cases e with
  | schema => exact readSchema_of_not_called h reply
  | _ => rfl

lemma write_of_not_called {e : Endpoint} (h : (write setup d o r e).calls = [])
    (reply : Validation.Reply) : write setup d { o with reply } r e = write setup d o r e := by
  cases e with
  | trigger => exact trigger_of_not_called h reply
  | _ => rfl

/-- What the validation service would reply does not matter if it is not asked. -/
lemma handle_of_not_called (h : (handle setup d o r).calls = []) (reply : Validation.Reply) :
    handle setup d { o with reply } r = handle setup d o r := by
  rcases handle_cases setup r with ⟨e, -, -, hhandle⟩ | ⟨response, -, hhandle⟩
  · rw [hhandle] at h
    have hserve : serve setup d { o with reply } r e = serve setup d o r e := by
      simp only [serve] at h ⊢
      cases hm : r.method with
      | get =>
        rw [hm] at h
        exact read_of_not_called h reply
      | head =>
        rw [hm] at h
        simp only [read_of_not_called h reply]
      | post | options | other name =>
        rw [hm] at h
        exact write_of_not_called h reply
    rw [hhandle, hhandle, hserve]
  · rw [hhandle, hhandle]

end Requests

/-! ### Two sessions side by side -/

variable {setup : Setup} {d d' : Desk}

lemma Occasion.erased_congr {o o' : Occasion} (h : o'.reply = o.reply) : o.erased = o'.erased := by
  rw [erased, erased, h]

/-- A request that comes again is answered as before and does as before, on a desk that agrees with
the first one. -/
lemma receive_again {t : Retake} {o : Occasion} (hagain : t.again = some o)
    (hfair : t.Fair (d.receive setup t.visit).1) (hd : d.erased = d'.erased) :
    (d.receive setup t.visit).1.masked = (d'.receive setup ⟨t.visit.request, o⟩).1.masked ∧
      (d.receive setup t.visit).2.erased =
        (d'.receive setup ⟨t.visit.request, o⟩).2.erased := by
  have houtcome : (handle setup d t.visit.occasion t.visit.request).masked t.visit.request.mask =
      (handle setup d' o t.visit.request).masked t.visit.request.mask := by
    by_cases hcalls : (handle setup d t.visit.occasion t.visit.request).calls = []
    · -- what the service would have replied has no part in it
      rw [← handle_of_not_called hcalls o.reply]
      exact masked_handle_congr setup t.visit.request hd (Occasion.erased_congr rfl)
    · exact masked_handle_congr setup t.visit.request hd
        (Occasion.erased_congr (hfair.same_reply o hagain hcalls))
  simp only [Outcome.masked, Outcome.mk.injEq] at houtcome
  obtain ⟨hresponse, hdesk, hcalls⟩ := houtcome
  refine ⟨?_, hdesk⟩
  simp only [Desk.receive, Exchange.masked, hresponse, hcalls]

/-- What the two sessions keep: the desks agree up to ids and timestamps. -/
lemma agree_of_fair {plan : List Retake} (hd : d.erased = d'.erased)
    (fair : List.Forall₂ Retake.Fair plan
      (Run.outputs (Desk.receive setup) d (plan.map Retake.visit))) :
    keptExchanges plan (Run.outputs (Desk.receive setup) d (plan.map Retake.visit)) =
        (Run.outputs (Desk.receive setup) d' (plan.filterMap Retake.second?)).map
          Exchange.masked ∧
      (Run.after (Desk.receive setup) d (plan.map Retake.visit)).erased =
        (Run.after (Desk.receive setup) d' (plan.filterMap Retake.second?)).erased := by
  -- the two desks change from request to request, so both are general
  induction plan generalizing d d' with
  | nil => exact ⟨rfl, hd⟩
  | cons t plan ih =>
    rw [List.map_cons, Run.outputs_cons, List.forall₂_cons] at fair
    obtain ⟨hfair, hrest⟩ := fair
    cases hagain : t.again with
    | none =>
      -- a request that is left out has left the first desk alone, so the second one need not move
      have hdesk : (d.receive setup t.visit).2 = d :=
        (effect_handle setup d t.visit.occasion t.visit.request).desk_of_ineffective
          (hfair.left_out hagain)
      rw [hdesk] at hrest
      rw [List.map_cons, Run.outputs_cons, Run.after_cons, Retake.second_cons_of_none hagain, hdesk]
      obtain ⟨hseen, hafter⟩ := ih hd hrest
      refine ⟨?_, hafter⟩
      rw [← hseen]
      simp [keptExchanges, hagain]
    | some o =>
      -- a request that comes again moves both desks alike
      obtain ⟨hexchange, hdesk⟩ := receive_again hagain hfair hd
      rw [List.map_cons, Run.outputs_cons, Run.after_cons, Retake.second_cons_of_some hagain,
        Run.outputs_cons, Run.after_cons, List.map_cons, ← hexchange]
      obtain ⟨hseen, hafter⟩ := ih hdesk hrest
      refine ⟨?_, hafter⟩
      rw [← hseen]
      simp [keptExchanges, hagain]

/-- What lasts of the queue does not depend on ids and timestamps. -/
lemma lasting_of_erased {q q' : Registry} (h : q.erased = q'.erased) :
    q.snapshot.map Cue.lasting = q'.snapshot.map Cue.lasting := by
  have hlasting : ∀ q : Registry, q.erased.snapshot.map Cue.lasting =
      q.snapshot.map Cue.lasting := by
    intro q
    rw [q.snapshot_erased, List.map_map]
    rfl
  rw [← hlasting q, h, hlasting q']

/-- **Requests without effect leave no trace.**  Take a session a second time without some of its
requests without effect, where each of the others comes again at any time and with any id at hand,
and with the same reply of the validation service if it asked for one.  Then the others are
answered as before up to ids, timestamps and ages, and in the end the queue has the same sequences,
priorities and payloads in the same order, the next number is the same, and so is the position of
the playhead. -/
theorem ineffective_leave_no_trace (setup : Setup) (plan : List Retake)
    (fair : List.Forall₂ Retake.Fair plan (exchanges setup (plan.map Retake.visit))) :
    let first := plan.map Retake.visit
    let second := plan.filterMap Retake.second?
    keptExchanges plan (exchanges setup first) =
        (exchanges setup second).map Exchange.masked ∧
      (deskAfter setup first).registry.snapshot.map Cue.lasting =
        (deskAfter setup second).registry.snapshot.map Cue.lasting ∧
      (deskAfter setup first).registry.nextSequence =
        (deskAfter setup second).registry.nextSequence ∧
      (deskAfter setup first).playhead.position = (deskAfter setup second).playhead.position := by
  intro first second
  obtain ⟨hseen, hdesk⟩ := agree_of_fair (d := {}) rfl fair
  have hregistry := congrArg Desk.registry hdesk
  have hplayhead := congrArg Desk.playhead hdesk
  have hnext := congrArg Registry.nextSequence hregistry
  have hposition := congrArg Playhead.position hplayhead
  exact ⟨hseen, lasting_of_erased hregistry, hnext, hposition⟩

/-- A session without its refused trigger, its read of the queue and its empty claim. -/
theorem ineffective_leave_no_trace_of_three_left_out :
    let setup : Setup := ⟨false, ⟨"", "", ""⟩⟩
    let send (m : Method) (path body id : String) : Visit :=
      ⟨⟨m, ⟨path.toList, []⟩, [("content-type", "application/json")],
        Text.Utf8.encode body.toList⟩, ⟨⟨0⟩, ⟨id⟩, .unreachable⟩⟩
    let plan : List Retake :=
      [⟨send .post "/cue/claim" "" "a", none⟩, ⟨send .post "/cue/trigger" "[]" "b", none⟩,
        ⟨send .post "/cue/trigger" "\x7b\x7d" "c", some ⟨⟨7⟩, ⟨"d"⟩, .unreachable⟩⟩,
        ⟨send .get "/queue" "" "e", none⟩,
        ⟨send .post "/cue/claim" "" "f", some ⟨⟨8⟩, ⟨"g"⟩, .unreachable⟩⟩]
    List.Forall₂ Retake.Fair plan (exchanges setup (plan.map Retake.visit)) ∧
      (plan.filterMap Retake.second?).length = 2 ∧
      keptExchanges plan (exchanges setup (plan.map Retake.visit)) =
        (exchanges setup (plan.filterMap Retake.second?)).map Exchange.masked := by
  intro setup send plan
  have fair : List.Forall₂ Retake.Fair plan (exchanges setup (plan.map Retake.visit)) := by
    refine .cons ⟨fun _ => Or.inr (Or.inr ?_), ?_⟩ (.cons ⟨fun _ => Or.inl ?_, ?_⟩
      (.cons ⟨?_, ?_⟩ (.cons ⟨fun _ => Or.inr (Or.inl ?_), ?_⟩ (.cons ⟨?_, ?_⟩ .nil))))
    · exact ⟨by decide, by decide +kernel⟩
    · rintro _ ⟨⟩
    · decide +kernel
    · rintro _ ⟨⟩
    · rintro ⟨⟩
    · rintro _ ⟨⟩ _
      rfl
    · decide
    · rintro _ ⟨⟩
    · rintro ⟨⟩
    · rintro _ ⟨⟩ _
      rfl
  exact ⟨fair, rfl, (ineffective_leave_no_trace setup plan fair).1⟩

end Http

end ShowControl
