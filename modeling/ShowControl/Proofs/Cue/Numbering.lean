/-
Numbers and sizes.

Cues reach the queue in two ways, by a call or by a document that is submitted, and leave it by
claims.  A run of such actions has its results.  Some of them tell of an arrival (`Result.told?`),
others of a cue that is handed out (`Result.handed?`), and these are all that is counted here.

`Tally` ties what was counted to the queue.  One action brings in a cue, hands one out, or leaves
the queue alone (`Move`), and each of the three keeps the tally.  The main result is
`numbered_and_counted`: arrivals are numbered from 1 without a gap, and the size of the queue is the
number of arrivals less the number of cues handed out.
-/
import ShowControl.Proofs.Cue.Calls
import ShowControl.Proofs.Cue.Intake

namespace ShowControl.Traffic

/-- A call on the queue, or a document that is submitted to it. -/
inductive Action where
  | call (call : Registry.Call)
  | submit (check : Option Intake.Check) (id : CueId) (now : Instant) (document : Json)

/-- What comes back from an action. -/
inductive Result where
  | answered (answer : Registry.Answer)
  | submitted (outcome : Except Fault Ack)

/-- Takes an action. -/
def act (r : Registry) : Action → Result × Registry
  | .call call =>
    let (answer, r) := r.perform call
    (.answered answer, r)
  | .submit check id now document =>
    let s := Intake.submit check r id now document
    (.submitted s.outcome, s.registry)

/-- The queue after a run. -/
def after (actions : List Action) : Registry := Run.after act {} actions

/-- The results of a run. -/
def results (actions : List Action) : List Result := Run.outputs act {} actions

/-- What a successful arrival is told: its number and the size of the queue. -/
def Result.told? : Result → Option (UInt64 × ℕ)
  | .answered (.receipt receipt) => some (receipt.sequence, receipt.queueSize)
  | .submitted (.ok ack) => some (ack.sequence, ack.queueSize)
  | _ => none

/-- The cue that a claim hands out. -/
def Result.handed? : Result → Option Cue
  | .answered (.claimed cue) => cue
  | _ => none

/-- The numbers of the arrivals, as they were told. -/
def numbers (past : List Result) : List UInt64 := past.filterMap fun x => x.told?.map (·.1)

/-- The cues that were handed out. -/
def handedOut (past : List Result) : List Cue := past.filterMap Result.handed?

/-! ### One action -/

/-- What an action can come to. -/
inductive Move (r : Registry) : Result → Registry → Prop where
  /-- A cue comes in, and its number and the size of the queue are told. -/
  | arrival (id : CueId) (now : Instant) (priority : Priority) (payload : Fields) {x : Result}
      (told : let receipt := (r.insert id now priority payload).1
        x.told? = some (receipt.sequence, receipt.queueSize))
      (kept : x.handed? = none) :
      Move r x (r.insert id now priority payload).2
  /-- The first cue goes out, if there is one. -/
  | claim : Move r (.answered (.claimed r.claim.1)) r.claim.2
  /-- Nothing happens to the queue. -/
  | idle {x : Result} (untold : x.told? = none) (kept : x.handed? = none) : Move r x r

lemma move_act (r : Registry) (a : Action) : Move r (act r a).1 (act r a).2 := by
  cases a with
  | call call =>
    cases call with
    | insert id now priority payload => exact .arrival id now priority payload rfl rfl
    | claim => exact .claim
    | snapshot => exact .idle rfl rfl
    | peek limit => exact .idle rfl rfl
    | size => exact .idle rfl rfl
    | isEmpty => exact .idle rfl rfl
  | submit check id now document =>
    simp only [act]
    rcases Intake.submit_cases check r id now document with
      ⟨payload, priority, -, hdone⟩ | ⟨fault, checked, -, hdone⟩
    · rw [hdone]
      exact .arrival id now priority payload rfl rfl
    · rw [hdone]
      exact .idle rfl rfl

/-! ### Counting -/

lemma numbers_concat (past : List Result) (x : Result) :
    numbers (past ++ [x]) = numbers past ++ (x.told?.map (·.1)).toList := by
  rw [numbers, List.filterMap_append, numbers]
  cases h : x.told? <;> simp [h]

lemma handedOut_concat (past : List Result) (x : Result) :
    handedOut (past ++ [x]) = handedOut past ++ x.handed?.toList := by
  rw [handedOut, List.filterMap_append, handedOut]
  cases h : x.handed? <;> simp [h]

lemma numbers_concat_told {past : List Result} {x : Result} {sequence : UInt64} {size : ℕ}
    (told : x.told? = some (sequence, size)) :
    numbers (past ++ [x]) = numbers past ++ [sequence] := by
  rw [numbers_concat, told]
  rfl

lemma numbers_length_le_concat (past : List Result) (x : Result) :
    (numbers past).length ≤ (numbers (past ++ [x])).length := by
  rw [numbers_concat, List.length_append]
  exact Nat.le_add_right _ _

/-! ### The tally -/

/-- How what was counted in the past stands to the queue. -/
structure Tally (past : List Result) (r : Registry) : Prop where
  sound : r.Sound
  next_eq : r.nextSequence.toNat = (numbers past).length + 1
  /-- Arrivals are numbered from 1. -/
  numbered : (numbers past).map UInt64.toNat = List.range' 1 (numbers past).length
  /-- What arrived is pending or handed out. -/
  size_eq : r.size + (handedOut past).length = (numbers past).length

section Steps

variable {past : List Result} {r r' : Registry} {x : Result}

lemma tally_empty : Tally [] {} where
  sound := Registry.sound_empty
  next_eq := rfl
  numbered := rfl
  size_eq := rfl

/-- As long as the run is not too long, an arrival leaves a number for the next one. -/
lemma Tally.room (h : Tally past r) {sequence : UInt64} {size : ℕ}
    (told : x.told? = some (sequence, size))
    (few : (numbers (past ++ [x])).length < 2 ^ 64 - 1) : r.nextSequence.toNat + 1 < 2 ^ 64 := by
  rw [numbers_concat_told told, List.length_append, List.length_singleton] at few
  rw [h.next_eq]
  omega

/-- A cue that comes in is one more arrival, and the queue has one more cue. -/
lemma Tally.arrival (h : Tally past r) (id : CueId) (now : Instant) (priority : Priority)
    (payload : Fields) {size : ℕ} (told : x.told? = some (r.nextSequence, size))
    (kept : x.handed? = none) (few : (numbers (past ++ [x])).length < 2 ^ 64 - 1) :
    Tally (past ++ [x]) (r.insert id now priority payload).2 := by
  have hroom := h.room told few
  have hnumbers : numbers (past ++ [x]) = numbers past ++ [r.nextSequence] :=
    numbers_concat_told told
  have hlength : (numbers (past ++ [x])).length = (numbers past).length + 1 := by
    rw [hnumbers, List.length_append, List.length_singleton]
  constructor
  · exact h.sound.insert id now priority payload hroom
  · rw [Registry.nextSequence_insert, Registry.toNat_add_one hroom, hlength, h.next_eq]
  · rw [hlength, hnumbers, List.map_append, h.numbered, List.map_singleton, h.next_eq,
      List.range'_concat, Nat.one_mul, Nat.add_comm 1]
  · rw [h.sound.size_insert, handedOut_concat, kept, Option.toList_none, List.append_nil, hlength,
      ← h.size_eq, Nat.add_right_comm]

/-- A claim hands out one cue, and the queue has one less, or there was none. -/
lemma Tally.claim (h : Tally past r) :
    Tally (past ++ [.answered (.claimed r.claim.1)]) r.claim.2 := by
  have hnumbers : numbers (past ++ [.answered (.claimed r.claim.1)]) = numbers past := by
    rw [numbers_concat]
    exact List.append_nil _
  have hhanded : handedOut (past ++ [.answered (.claimed r.claim.1)]) =
      handedOut past ++ r.claim.1.toList := handedOut_concat _ _
  constructor
  · exact h.sound.claim
  · rw [hnumbers, Registry.nextSequence_claim, h.next_eq]
  · rw [hnumbers, h.numbered]
  · have hclaim := r.size_claim
    have hsize := h.size_eq
    rw [hnumbers, hhanded, List.length_append]
    omega

/-- What does not touch the queue does not count. -/
lemma Tally.idle (h : Tally past r) (untold : x.told? = none) (kept : x.handed? = none) :
    Tally (past ++ [x]) r := by
  have hnumbers : numbers (past ++ [x]) = numbers past := by
    rw [numbers_concat, untold, Option.map_none, Option.toList_none, List.append_nil]
  have hhanded : handedOut (past ++ [x]) = handedOut past := by
    rw [handedOut_concat, kept, Option.toList_none, List.append_nil]
  exact ⟨h.sound, by rw [hnumbers, h.next_eq], by rw [hnumbers, h.numbered],
    by rw [hnumbers, hhanded, h.size_eq]⟩

/-- What one action keeps. -/
lemma Tally.step (h : Tally past r) (hmove : Move r x r')
    (few : (numbers (past ++ [x])).length < 2 ^ 64 - 1) : Tally (past ++ [x]) r' := by
  cases hmove with
  | arrival id now priority payload told kept =>
    rw [h.sound.receipt_insert] at told
    exact h.arrival id now priority payload told kept few
  | claim => exact h.claim
  | idle untold kept => exact h.idle untold kept

/-- An arrival gets the next number and leaves one for the next arrival.  It is told its number and
the size of the queue with its cue. -/
lemma Tally.told (h : Tally past r) (hmove : Move r x r')
    (few : (numbers (past ++ [x])).length < 2 ^ 64 - 1) {sequence : UInt64} {queueSize : ℕ}
    (htold : x.told? = some (sequence, queueSize)) :
    r.nextSequence.toNat + 1 < 2 ^ 64 ∧ queueSize = r'.size ∧
      ∃ cue, r.Gains r' cue ∧ cue.sequence = sequence := by
  cases hmove with
  | arrival id now priority payload told kept =>
    rw [h.sound.receipt_insert] at told
    obtain ⟨rfl, rfl⟩ := Prod.mk.inj (Option.some.inj (told.symm.trans htold))
    have hroom := h.room told few
    exact ⟨hroom, (h.sound.size_insert id now priority payload).symm, _,
      h.sound.gains_insert id now priority payload hroom, rfl⟩
  | claim => cases htold
  | idle untold kept => cases untold.symm.trans htold

end Steps

/-! ### Runs -/

section Runs

variable {actions : List Action} {k : ℕ}

lemma results_concat (actions : List Action) (a : Action) :
    results (actions ++ [a]) = results actions ++ [(act (after actions) a).1] :=
  Run.outputs_concat act {} actions a

lemma after_concat (actions : List Action) (a : Action) :
    after (actions ++ [a]) = (act (after actions) a).2 :=
  Run.after_concat act {} actions a

/-- What a whole run keeps. -/
lemma tally_after (few : (numbers (results actions)).length < 2 ^ 64 - 1) :
    Tally (results actions) (after actions) := by
  induction actions using List.reverseRecOn with
  | nil => exact tally_empty
  | append_singleton actions a ih =>
    rw [results_concat] at few
    have hfew := Nat.lt_of_le_of_lt (numbers_length_le_concat _ _) few
    rw [results_concat, after_concat]
    exact (ih hfew).step (move_act _ _) few

/-- Before the end of a run no more cues have arrived than at the end. -/
lemma numbers_length_take_le (actions : List Action) (k : ℕ) :
    (numbers (results (actions.take k))).length ≤ (numbers (results actions)).length := by
  have hsplit : results actions = results (actions.take k) ++
      Run.outputs act (after (actions.take k)) (actions.drop k) := by
    rw [results, results, after, ← Run.outputs_append, List.take_append_drop]
  rw [hsplit, numbers, numbers, List.filterMap_append, List.length_append]
  exact Nat.le_add_right _ _

/-- At every point of a run. -/
lemma tally_take (few : (numbers (results actions)).length < 2 ^ 64 - 1) (k : ℕ) :
    Tally (results (actions.take k)) (after (actions.take k)) :=
  tally_after (Nat.lt_of_le_of_lt (numbers_length_take_le actions k) few)

/-- A result is that of the action at its place, and the queue makes its move there. -/
lemma move_of_result {x : Result} (h : (results actions)[k]? = some x) :
    results (actions.take (k + 1)) = results (actions.take k) ++ [x] ∧
      Move (after (actions.take k)) x (after (actions.take (k + 1))) := by
  rw [results, Run.getElem?_outputs, Option.map_eq_some_iff] at h
  obtain ⟨a, ha, rfl⟩ := h
  rw [List.take_add_one, ha, Option.toList_some, results_concat, after_concat]
  exact ⟨rfl, move_act _ a⟩

end Runs

/-- **Numbers and sizes.**  In every run with fewer than 2^64 - 1 arrivals:
* the arrivals are numbered 1, 2, 3 and so on, as they come;
* at every point no more cues have been handed out than have arrived, the size of the queue is the
  difference, and the next number is one more than the number of arrivals;
* the queue gains the cue of an arrival, under the number that it is told, with a number left for
  the next one; the size that it is told is that of the queue with its cue. -/
theorem numbered_and_counted (actions : List Action)
    (few : (numbers (results actions)).length < 2 ^ 64 - 1) :
    (numbers (results actions)).map UInt64.toNat =
      List.range' 1 (numbers (results actions)).length ∧
    (∀ k,
      let past := results (actions.take k)
      let r := after (actions.take k)
      (handedOut past).length ≤ (numbers past).length ∧
        r.size = (numbers past).length - (handedOut past).length ∧
        r.nextSequence.toNat = (numbers past).length + 1) ∧
    ∀ k x sequence queueSize, (results actions)[k]? = some x →
      x.told? = some (sequence, queueSize) →
      let r := after (actions.take k)
      let r' := after (actions.take (k + 1))
      r.nextSequence.toNat + 1 < 2 ^ 64 ∧ queueSize = r'.size ∧
        ∃ cue, r.Gains r' cue ∧ cue.sequence = sequence := by
  refine ⟨(tally_after few).numbered, ?_, ?_⟩
  · intro k past r
    have htally : Tally past r := tally_take few k
    have hsize := htally.size_eq
    exact ⟨by omega, by omega, htally.next_eq⟩
  · intro k x sequence queueSize hx htold r r'
    obtain ⟨hresults, hmove⟩ := move_of_result hx
    have hfew := Nat.lt_of_le_of_lt (numbers_length_take_le actions (k + 1)) few
    exact (tally_take few k).told hmove (hresults ▸ hfew) htold

/-- A run of submitted documents and calls, with a document that is no object, one that the
validation service refuses, and a claim between the arrivals. -/
theorem numbered_and_counted_of_mixed_run :
    let actions : List Action :=
      [.submit none ⟨"a"⟩ ⟨0⟩ (.object []), .submit none ⟨"b"⟩ ⟨0⟩ (.array []),
        .call (.insert ⟨"c"⟩ ⟨0⟩ (.clamped 90) []), .call .claim,
        .submit (some fun _ => .error (.gateway "no")) ⟨"d"⟩ ⟨0⟩ (.object []), .call .size,
        .submit (some fun _ => .ok ()) ⟨"e"⟩ ⟨0⟩ (.object [])]
    (numbers (results actions)).length = 3 ∧
      (numbers (results actions)).map UInt64.toNat = [1, 2, 3] ∧ (after (actions.take 5)).size = 1 ∧
      ∃ cue, (after (actions.take 6)).Gains (after (actions.take 7)) cue ∧ cue.sequence = 3 := by
  intro actions
  have hlength : (numbers (results actions)).length = 3 := by rfl
  obtain ⟨hnumbers, hsizes, htold⟩ := numbered_and_counted actions (by rw [hlength]; decide)
  refine ⟨hlength, hnumbers, (hsizes 5).2.1, ?_⟩
  exact (htold 6 (.submitted (.ok ⟨⟨"e"⟩, 3, .standard, 2⟩)) 3 2 rfl rfl).2.2

end ShowControl.Traffic
