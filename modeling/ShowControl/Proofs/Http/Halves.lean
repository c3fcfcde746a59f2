/-
Two halves that know nothing of each other.

The desk has two halves: the queue, and the playhead.  Requests at the path of the playhead go to
the playhead, all others to the queue.  A request is answered as if the other half of the desk had
never been used (`handle_only`), and it leaves the other half alone (`Effect.only_of_ne`).

So what a session shows at one half does not depend on what is done at the other one: take the
session a second time with any of the requests to the other half left out or at other times, and the
requests to this half are answered as before, up to ids and timestamps (`agree_at_half`).
-/
import ShowControl.Proofs.Http.NoTrace

namespace ShowControl.Http

/-- A half of the desk. -/
inductive Half where
  | queue
  | playhead
deriving DecidableEq

/-- The half that an endpoint serves. -/
def Endpoint.half : Endpoint → Half
  | .playhead => .playhead
  | _ => .queue

/-- The half that a request goes to. -/
def Request.half (r : Request) : Half :=
  match Endpoint.at? r.target.path with
  | some e => e.half
  | none => .queue

/-- The desk with one half as it is and the other one as it was in the beginning. -/
def Desk.only (d : Desk) : Half → Desk
  | .queue => { registry := d.registry }
  | .playhead => { playhead := d.playhead }

/-- An outcome with one half of its desk. -/
def Outcome.only (outcome : Outcome) (half : Half) : Outcome :=
  { outcome with desk := outcome.desk.only half }

/-- What is seen at one half, up to ids and timestamps. -/
def seenAt (half : Half) (xs : List Exchange) : List Exchange :=
  (xs.filter fun x => x.request.half = half).map Exchange.masked

/-- Every request to this half comes again, at any time and with any id at hand, and one to the
queue with the same reply of the validation service. -/
def Retake.Keeps (half : Half) (t : Retake) : Prop :=
  t.visit.request.half = half →
    ∃ o, t.again = some o ∧ (half = .queue → o.reply = t.visit.occasion.reply)

lemma Request.Asks.half_eq {r : Request} {m : Method} {e : Endpoint} (h : r.Asks m e) :
    r.half = e.half := by
  rw [Request.half, h.2]

section Seen

variable {half : Half} {x : Exchange}

lemma seenAt_cons_of_eq (h : x.request.half = half) (xs : List Exchange) :
    seenAt half (x :: xs) = x.masked :: seenAt half xs := by
  simp [seenAt, h]

lemma seenAt_cons_of_ne (h : x.request.half ≠ half) (xs : List Exchange) :
    seenAt half (x :: xs) = seenAt half xs := by
  simp [seenAt, h]

end Seen

/-! ### One half is enough -/

section Requests

variable (setup : Setup) (d : Desk) (o : Occasion) (r : Request)

lemma trigger_only : trigger setup (d.only .queue) o r = (trigger setup d o r).only .queue := by
  cases hdoc : r.document with
  | error fault => simp only [trigger, hdoc]; rfl
  | ok document => simp only [trigger, hdoc]; rfl

lemma updatePlayhead_only :
    updatePlayhead (d.only .playhead) o r = (updatePlayhead d o r).only .playhead := by
  cases hdoc : r.document with
  | error fault => simp only [updatePlayhead, hdoc]; rfl
  | ok document =>
    simp only [updatePlayhead, hdoc]
    cases reported document o.now <;> rfl

lemma readSchema_only :
    readSchema setup (d.only .queue) o = (readSchema setup d o).only .queue := by
  simp only [readSchema]
  cases setup.validated with
  | false => rfl
  | true => cases Validation.schemaDocument o.reply <;> rfl

lemma read_only (e : Endpoint) :
    read setup (d.only e.half) o r e = (read setup d o r e).only e.half := by
  cases e with
  | schema => exact readSchema_only setup d o
  | _ => rfl

lemma write_only (e : Endpoint) :
    write setup (d.only e.half) o r e = (write setup d o r e).only e.half := by
  cases e with
  | trigger => exact trigger_only setup d o r
  | playhead => exact updatePlayhead_only d o r
  | _ => rfl

lemma serve_only (e : Endpoint) :
    serve setup (d.only e.half) o r e = (serve setup d o r e).only e.half := by
  simp only [serve]
  cases r.method with
  | get => exact read_only setup d o r e
  | head => simp only [read_only]; rfl
  | post | options | other name => exact write_only setup d o r e

/-- A request is answered as if the other half of the desk had never been used. -/
lemma handle_only : handle setup (d.only r.half) o r = (handle setup d o r).only r.half := by
  rcases handle_cases setup r with ⟨e, hat, -, hhandle⟩ | ⟨response, -, hhandle⟩
  · have hhalf : r.half = e.half := by rw [Request.half, hat]
    rw [hhandle, hhandle, hhalf, serve_only]
    rfl
  · rw [hhandle, hhandle]
    rfl

end Requests

section Steps

variable {setup : Setup} {d d' : Desk} {o : Occasion} {r : Request} {half : Half}

/-- A request leaves the other half of the desk alone. -/
lemma Effect.only_of_ne {outcome : Outcome} (heff : Effect setup d o r outcome)
    (h : r.half ≠ half) : outcome.desk.only half = d.only half := by
  cases heff with
  | queued payload priority asks hdoc hprio happroved =>
    cases half with
    | queue => exact absurd asks.half_eq h
    | playhead => rfl
  | claimed asks =>
    cases half with
    | queue => exact absurd asks.half_eq h
    | playhead => rfl
  | moved document playhead asks hdoc hrep =>
    cases half with
    | queue => rfl
    | playhead => exact absurd asks.half_eq h
  | idle response calls failed => rfl

lemma receive_elsewhere {v : Visit} (h : v.request.half ≠ half) :
    (d.receive setup v).2.only half = d.only half :=
  (effect_handle setup d v.occasion v.request).only_of_ne h

lemma calls_updatePlayhead (d : Desk) (o : Occasion) (r : Request) :
    (updatePlayhead d o r).calls = [] := by
  cases hdoc : r.document with
  | error fault => simp only [updatePlayhead, hdoc]
  | ok document =>
    simp only [updatePlayhead, hdoc]
    cases reported document o.now <;> rfl

/-- At the playhead the validation service is not asked. -/
lemma calls_of_half_eq_playhead (h : r.half = .playhead) : (handle setup d o r).calls = [] := by
  rcases handle_cases setup r with ⟨e, hat, -, hhandle⟩ | ⟨response, -, hhandle⟩
  · have hhalf : e.half = .playhead := by rw [← h, Request.half, hat]
    cases e with
    | playhead =>
      rw [hhandle, Outcome.shared, serve]
      cases r.method with
      | get | head => rfl
      | post | options | other name => exact calls_updatePlayhead d o r
    | _ => cases hhalf
  · rw [hhandle]

/-! ### Two sessions side by side -/

/-- A request to a half on which two desks agree is answered alike on both, and they go on to agree
there. -/
lemma receive_at_half {t : Retake} (keeps : t.Keeps half) (hhalf : t.visit.request.half = half)
    (hd : (d.only half).erased = (d'.only half).erased) :
    ∃ o, t.again = some o ∧
      (d.receive setup t.visit).1.masked = (d'.receive setup ⟨t.visit.request, o⟩).1.masked ∧
      ((d.receive setup t.visit).2.only half).erased =
        ((d'.receive setup ⟨t.visit.request, o⟩).2.only half).erased := by
  obtain ⟨o, hagain, hreply⟩ := keeps hhalf
  have hfair : t.Fair ((d.only half).receive setup t.visit).1 := by
    refine ⟨fun hnone => absurd (hnone.symm.trans hagain) (by simp), fun o' hagain' hcalls => ?_⟩
    obtain rfl : o = o' := Option.some.inj (hagain.symm.trans hagain')
    cases half with
    | queue => exact hreply rfl
    | playhead => exact absurd (calls_of_half_eq_playhead hhalf) hcalls
  obtain ⟨hseen, hdesk⟩ := receive_again hagain hfair hd
  -- each of the two desks may be replaced by its half
  have honly : ∀ (d : Desk) (o : Occasion),
      handle setup (d.only half) o t.visit.request =
        (handle setup d o t.visit.request).only half := by
    intro d o
    rw [← hhalf, handle_only]
  simp only [Desk.receive, honly] at hseen hdesk
  exact ⟨o, hagain, hseen, hdesk⟩

/-- What the two sessions keep: the desks agree on this half up to ids and timestamps. -/
lemma agree_at_half {plan : List Retake} (keeps : ∀ t ∈ plan, t.Keeps half)
    (hd : (d.only half).erased = (d'.only half).erased) :
    seenAt half (Run.outputs (Desk.receive setup) d (plan.map Retake.visit)) =
        seenAt half (Run.outputs (Desk.receive setup) d' (plan.filterMap Retake.second?)) ∧
      ((Run.after (Desk.receive setup) d (plan.map Retake.visit)).only half).erased =
        ((Run.after (Desk.receive setup) d' (plan.filterMap Retake.second?)).only half).erased := by
  -- the two desks change from request to request, so both are general
  induction plan generalizing d d' with
  | nil => exact ⟨rfl, hd⟩
  | cons t plan ih =>
    obtain ⟨hkeep, hrest⟩ := List.forall_mem_cons.mp keeps
    by_cases hhalf : t.visit.request.half = half
    · obtain ⟨o, hagain, hseen, hdesk⟩ := receive_at_half hkeep hhalf hd
      obtain ⟨hmore, hafter⟩ := ih hrest hdesk
      rw [List.map_cons, Run.outputs_cons, Run.after_cons, Retake.second_cons_of_some hagain,
        Run.outputs_cons, Run.after_cons]
      refine ⟨?_, hafter⟩
      rw [seenAt_cons_of_eq hhalf, seenAt_cons_of_eq hhalf, hseen, hmore]
    · -- whether or not the request comes again, it is not seen here and this half stays as it is
      have hfirst : ((d.receive setup t.visit).2.only half).erased = (d'.only half).erased := by
        rw [receive_elsewhere hhalf, hd]
      rw [List.map_cons, Run.outputs_cons, Run.after_cons, seenAt_cons_of_ne hhalf]
      cases hagain : t.again with
      | none =>
        rw [Retake.second_cons_of_none hagain]
        exact ih hrest hfirst
      | some o =>
        have hsecond : ((d'.receive setup ⟨t.visit.request, o⟩).2.only half).erased =
            (d'.only half).erased := by
          rw [receive_elsewhere (v := ⟨t.visit.request, o⟩) hhalf]
        rw [Retake.second_cons_of_some hagain, Run.outputs_cons, Run.after_cons,
          seenAt_cons_of_ne hhalf]
        exact ih hrest (hfirst.trans hsecond.symm)

end Steps

end ShowControl.Http
