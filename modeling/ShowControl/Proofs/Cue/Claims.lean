/-
Stretches without arrivals.

As long as nothing arrives, claims hand out the queue from the front, one cue each, and come away
with nothing once it is used up; looks at the queue in between change nothing.  `handedOut cues n`
is what `n` claims come away with when the pending cues are `cues`.  A claim comes away with the
first of them and leaves the rest to those after it (`handedOut_succ`), so a stretch with `n` claims
hands out the front that a peek for `n` cues shows, and leaves the snapshot without it
(`stretch_of_no_insert`).
-/
import ShowControl.Proofs.Cue.Calls

namespace ShowControl.Registry

/-- Whether a call hands out a cue. -/
def Call.isClaim : Call → Bool
  | .claim => true
  | _ => false

/-- How many calls of a run hand out a cue. -/
def claims (calls : List Call) : ℕ := calls.countP Call.isClaim

/-- What a claim came away with. -/
def Answer.claimed? : Answer → Option (Option Cue)
  | .claimed cue => some cue
  | _ => none

/-- What `n` claims come away with: the first `n` cues, and nothing from then on. -/
def handedOut (cues : List Cue) (n : ℕ) : List (Option Cue) :=
  (cues.take n).map some ++ List.replicate (n - cues.length) none

@[simp] lemma handedOut_zero (cues : List Cue) : handedOut cues 0 = [] := by
  simp [handedOut]

/-- The first claim comes away with the first cue, the others with what they find then. -/
lemma handedOut_succ (cues : List Cue) (n : ℕ) :
    handedOut cues (n + 1) = cues.head? :: handedOut cues.tail n := by
  cases cues with
  | nil => simp [handedOut, List.replicate_succ]
  | cons c cues => simp [handedOut]

/-- A call that brings in nothing is a claim or leaves the queue alone. -/
lemma claim_or_idle {call : Call} (h : call.isInsert = false) (r : Registry) :
    call = .claim ∨ call.isClaim = false ∧ (r.perform call).1.claimed? = none ∧
      (r.perform call).2 = r := by
  cases call with
  | insert id now priority payload => cases h
  | claim => exact Or.inl rfl
  | snapshot | peek limit | size | isEmpty => exact Or.inr ⟨rfl, rfl, rfl⟩

/-- In a stretch without arrivals the claims hand out the front of the queue and leave the rest. -/
lemma stretch_of_no_insert {calls : List Call} (h : ∀ call ∈ calls, call.isInsert = false)
    (r : Registry) :
    (Run.outputs perform r calls).filterMap Answer.claimed? =
        handedOut r.snapshot (claims calls) ∧
      (Run.after perform r calls).snapshot = r.snapshot.drop (claims calls) := by
  induction calls generalizing r with
  | nil => exact ⟨by rw [claims, List.countP_nil, handedOut_zero]; rfl, rfl⟩
  | cons call calls ih =>
    obtain ⟨hclaimed, hleft⟩ :=
      ih (fun c hc => h c (List.mem_cons_of_mem call hc)) (r.perform call).2
    rw [Run.outputs_cons, Run.after_cons, hleft]
    rcases claim_or_idle (h call List.mem_cons_self) r with rfl | ⟨hcount, hanswer, hsame⟩
    · -- the claim takes the head, and the rest is a stretch from the tail on
      have hcount : claims (.claim :: calls) = claims calls + 1 := List.countP_cons_of_pos rfl
      have hanswer : (r.perform .claim).1.claimed? = some r.snapshot.head? :=
        congrArg some fst_claim
      have hqueue : (r.perform .claim).2.snapshot = r.snapshot.tail := snapshot_claim
      rw [List.filterMap_cons_some hanswer, hclaimed, hqueue, hcount, handedOut_succ,
        ← List.drop_one, List.drop_drop, Nat.add_comm 1]
      exact ⟨rfl, rfl⟩
    · have hcount : claims (call :: calls) = claims calls :=
        List.countP_cons_of_neg (by rw [hcount]; exact Bool.false_ne_true)
      rw [List.filterMap_cons_none hanswer, hclaimed, hsame, hcount]
      exact ⟨rfl, rfl⟩

/-! ### Sizes -/

/-- A call adds at most what it brings in. -/
lemma size_perform_le (r : Registry) (call : Call) :
    (r.perform call).2.size ≤ r.size + if call.isInsert then 1 else 0 := by
  cases call with
  | insert id now priority payload => exact length_place_le _ _ _
  | claim => exact Nat.le.intro r.size_claim
  | snapshot | peek limit | size | isEmpty => exact Nat.le_refl _

/-- No more cues are pending than have arrived. -/
lemma size_after_le (calls : List Call) : (after calls).size ≤ arrivals calls := by
  induction calls using List.reverseRecOn with
  | nil => exact Nat.le_refl _
  | append_singleton calls call ih =>
    rw [after_concat, arrivals_concat]
    exact Nat.le_trans (size_perform_le _ call) (Nat.add_le_add_right ih _)

end ShowControl.Registry
