/-
Runs of calls on the queue.

A run starts with the empty queue and makes any calls in any order.  As long as the numbers last,
that is for fewer than 2^64 - 1 arrivals, every queue on the way is sound, and the next number is
one more than the number of arrivals (`Registry.sound_after`, `Registry.nextSequence_after`).  So
the entries of the queue are what they should be, and an arrival never takes the place of one that
is there (`Registry.entries_after_run`).
-/
import Mathlib.Data.List.Induction
import ShowControl.Proofs.Cue.Sound
import ShowControl.Proofs.Run

namespace ShowControl.Registry

/-- A call on the queue. -/
inductive Call where
  | insert (id : CueId) (now : Instant) (priority : Priority) (payload : Fields)
  | claim
  | snapshot
  | peek (limit : ℕ)
  | size
  | isEmpty

/-- What comes back from a call. -/
inductive Answer where
  | receipt (receipt : Receipt)
  | claimed (cue : Option Cue)
  | cues (cues : List Cue)
  | count (n : ℕ)
  | flag (b : Bool)

/-- Makes a call. -/
def perform (r : Registry) : Call → Answer × Registry
  | .insert id now priority payload =>
    let (receipt, r) := r.insert id now priority payload
    (.receipt receipt, r)
  | .claim =>
    let (cue, r) := r.claim
    (.claimed cue, r)
  | .snapshot => (.cues r.snapshot, r)
  | .peek limit => (.cues (r.peek limit), r)
  | .size => (.count r.size, r)
  | .isEmpty => (.flag r.isEmpty, r)

/-- Whether a call brings in a cue. -/
def Call.isInsert : Call → Bool
  | .insert .. => true
  | _ => false

/-- How many calls of a run bring in a cue. -/
def arrivals (calls : List Call) : ℕ := calls.countP Call.isInsert

lemma arrivals_concat (calls : List Call) (call : Call) :
    arrivals (calls ++ [call]) = arrivals calls + if call.isInsert then 1 else 0 := by
  simp [arrivals, List.countP_append, List.countP_singleton]

lemma arrivals_le_concat (calls : List Call) (call : Call) :
    arrivals calls ≤ arrivals (calls ++ [call]) := by
  rw [arrivals_concat]
  exact Nat.le_add_right _ _

/-- The queue after a run. -/
def after (calls : List Call) : Registry := Run.after perform {} calls

@[simp] lemma after_nil : after [] = {} := rfl

lemma after_concat (calls : List Call) (call : Call) :
    after (calls ++ [call]) = ((after calls).perform call).2 :=
  Run.after_concat perform {} calls call

/-- What one call keeps: the queue stays sound, and the number for the next arrival is one more
after an arrival and the same after any other call. -/
lemma Sound.perform {r : Registry} (h : r.Sound) {call : Call}
    (room : r.nextSequence.toNat + 1 < 2 ^ 64 ∨ call.isInsert = false) :
    (r.perform call).2.Sound ∧ (r.perform call).2.nextSequence.toNat =
      r.nextSequence.toNat + if call.isInsert then 1 else 0 := by
  cases call with
  | insert id now priority payload =>
    have hroom : r.nextSequence.toNat + 1 < 2 ^ 64 := room.resolve_right (by simp [Call.isInsert])
    exact ⟨h.insert id now priority payload hroom, toNat_add_one hroom⟩
  | claim => exact ⟨h.claim, congrArg UInt64.toNat nextSequence_claim⟩
  | snapshot => exact ⟨h, rfl⟩
  | peek limit => exact ⟨h, rfl⟩
  | size => exact ⟨h, rfl⟩
  | isEmpty => exact ⟨h, rfl⟩

/-- When a run has fewer than 2^64 - 1 arrivals, there is a number left after its last call. -/
lemma room_of_few {r : Registry} {calls : List Call} {call : Call}
    (hnext : r.nextSequence.toNat = arrivals calls + 1)
    (few : arrivals (calls ++ [call]) < 2 ^ 64 - 1) :
    r.nextSequence.toNat + 1 < 2 ^ 64 ∨ call.isInsert = false := by
  rw [arrivals_concat] at few
  cases hc : call.isInsert with
  | true =>
    rw [hc, if_pos rfl] at few
    exact Or.inl (by omega)
  | false => exact Or.inr rfl

/-- After a run with fewer than 2^64 - 1 arrivals the queue is sound, and the numbers up to that of
the last arrival are handed out. -/
lemma sound_after_and_nextSequence {calls : List Call} (few : arrivals calls < 2 ^ 64 - 1) :
    (after calls).Sound ∧ (after calls).nextSequence.toNat = arrivals calls + 1 := by
  induction calls using List.reverseRecOn with
  | nil => exact ⟨sound_empty, rfl⟩
  | append_singleton calls call ih =>
    obtain ⟨hsound, hnext⟩ := ih (Nat.lt_of_le_of_lt (arrivals_le_concat calls call) few)
    obtain ⟨hsound', hnext'⟩ := hsound.perform (room_of_few hnext few)
    rw [after_concat, arrivals_concat]
    exact ⟨hsound', by rw [hnext', hnext]; omega⟩

lemma sound_after {calls : List Call} (few : arrivals calls < 2 ^ 64 - 1) :
    (after calls).Sound :=
  (sound_after_and_nextSequence few).1

lemma nextSequence_after {calls : List Call} (few : arrivals calls < 2 ^ 64 - 1) :
    (after calls).nextSequence.toNat = arrivals calls + 1 :=
  (sound_after_and_nextSequence few).2

/-- **The entries of the queue.**  After every run with fewer than 2^64 - 1 arrivals:
* each entry goes before all later ones by its key;
* each entry stands under the key of its cue, its sequence is a number that was handed out, and its
  priority is at most 100;
* no two entries share a sequence, whatever their priorities are;
* an arrival takes the place of no entry: it finds none under its key, puts its own between those
  that are there, and makes the queue longer by one. -/
theorem entries_after_run (calls : List Call) (few : arrivals calls < 2 ^ 64 - 1) :
    let r := after calls
    (r.pending.Pairwise fun a b => a.1.order b.1 = .lt) ∧
    (∀ e ∈ r.pending, e.1 = .of e.2 ∧ 1 ≤ e.2.sequence ∧ e.2.sequence < r.nextSequence ∧
      e.2.priority.value ≤ 100) ∧
    (r.pending.Pairwise fun a b => a.2.sequence ≠ b.2.sequence) ∧
    ∀ id now priority payload,
      let c := r.arrival id now priority payload
      let r' := (r.insert id now priority payload).2
      (∀ e ∈ r.pending, e.1 ≠ .of c) ∧
      (∃ front back, r.pending = front ++ back ∧ r'.pending = front ++ (.of c, c) :: back) ∧
      r'.size = r.size + 1 := by
  intro r
  have hsound : r.Sound := sound_after few
  refine ⟨?_, ?_, hsound.distinct, ?_⟩
  · exact hsound.inOrder.imp fun h => OrderKey.order_eq_lt_iff.mpr h
  · intro e he
    obtain ⟨hpos, hlt⟩ := hsound.numbered e he
    exact ⟨hsound.keyed e he, UInt64.le_iff_toNat_le.mpr hpos, hlt, e.2.priority.le_max⟩
  · intro id now priority payload
    obtain ⟨front, back, hsplit, hplace, -⟩ := hsound.insert_split id now priority payload
    exact ⟨hsound.fresh id now priority payload, ⟨front, back, hsplit, hplace⟩,
      hsound.size_insert id now priority payload⟩

/-- Two cues of one priority stay behind when one of a higher priority has come and gone, and a
third one of theirs comes in. -/
theorem entries_after_run_of_two_left :
    let calls : List Call :=
      [.insert ⟨"a"⟩ ⟨0⟩ (.clamped 50) [], .insert ⟨"b"⟩ ⟨0⟩ (.clamped 80) [],
        .insert ⟨"c"⟩ ⟨0⟩ (.clamped 50) [], .claim]
    arrivals calls < 2 ^ 64 - 1 ∧
      (after calls).pending.map (·.1) = [⟨.clamped 50, 1⟩, ⟨.clamped 50, 3⟩] ∧
      (∀ e ∈ (after calls).pending, e.1 ≠ ⟨.clamped 50, 4⟩) ∧
      ((after calls).insert ⟨"d"⟩ ⟨0⟩ (.clamped 50) []).2.size = 3 := by
  intro calls
  have few : arrivals calls < 2 ^ 64 - 1 := by decide
  obtain ⟨-, -, -, harrival⟩ := entries_after_run calls few
  obtain ⟨hfresh, -, hsize⟩ := harrival ⟨"d"⟩ ⟨0⟩ (.clamped 50) []
  exact ⟨few, rfl, hfresh, hsize⟩

end ShowControl.Registry
