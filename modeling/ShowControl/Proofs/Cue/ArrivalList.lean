/-
The queue beside a plain list.

An `ArrivalList` holds the pending cues in the order in which they arrived and does nothing to keep
another order: it sorts when it is asked for a snapshot, and it looks for the highest priority when
a cue is claimed.  The queue answers every run of calls as the list does
(`ArrivalList.queue_answers_as_list`).

The two are tied together by `ArrivalList.Holds`: the list and the queue have the same cues, and in
the list they stand by their sequences.  Two lists of the same cues in the order of their keys are
one list, so what matters is that sorting by priority alone leaves the cues of each priority as they
arrived (`ArrivalList.filter_sorted`).
-/
import Mathlib.Data.List.Sort
import ShowControl.Proofs.Cue.Calls

namespace ShowControl

/-- The pending cues as they arrived, and how many cues have arrived so far. -/
structure ArrivalList where
  arrived : ℕ := 0
  cues : List Cue := []

namespace ArrivalList

/-! ### The calls on a list -/

/-- Whether the priority of a cue is no lower than that of another one. -/
def outranks (c d : Cue) : Bool := d.priority.value ≤ c.priority.value

/-- The cues sorted by priority; those of one priority stay as they arrived. -/
def sorted (l : ArrivalList) : List Cue := l.cues.mergeSort outranks

/-- The highest pending priority. -/
def top? (l : ArrivalList) : Option ℕ := (l.cues.map fun c => c.priority.value).max?

/-- Whether a cue has the highest pending priority. -/
def isTop (l : ArrivalList) (c : Cue) : Bool := l.top? = some c.priority.value

/-- Takes in a cue at the end of the list. -/
def insert (l : ArrivalList) (id : CueId) (now : Instant) (priority : Priority)
    (payload : Fields) : Receipt × ArrivalList :=
  let cue : Cue := ⟨id, priority, (l.arrived + 1).toUInt64, .pending, now, payload⟩
  let cues := l.cues ++ [cue]
  (⟨id, cue.sequence, cues.length⟩, ⟨l.arrived + 1, cues⟩)

/-- Hands out the first cue of the highest pending priority. -/
def claim (l : ArrivalList) : Option Cue × ArrivalList :=
  (l.cues.find? l.isTop, { l with cues := l.cues.eraseP l.isTop })

/-- Makes a call. -/
def perform (l : ArrivalList) : Registry.Call → Registry.Answer × ArrivalList
  | .insert id now priority payload =>
    let (receipt, l) := l.insert id now priority payload
    (.receipt receipt, l)
  | .claim =>
    let (cue, l) := l.claim
    (.claimed cue, l)
  | .snapshot => (.cues l.sorted, l)
  | .peek limit => (.cues (l.sorted.take limit), l)
  | .size => (.count l.cues.length, l)
  | .isEmpty => (.flag l.cues.isEmpty, l)

/-- The list after a run. -/
def after (calls : List Registry.Call) : ArrivalList := Run.after perform {} calls

/-! ### Sorting by priority alone -/

lemma outranks_trans (a b c : Cue) (hab : outranks a b = true) (hbc : outranks b c = true) :
    outranks a c = true := by
  simp only [outranks, decide_eq_true_eq] at *
  omega

lemma outranks_total (a b : Cue) : (outranks a b || outranks b a) = true := by
  simp only [outranks, Bool.or_eq_true, decide_eq_true_eq]
  omega

variable {l : ArrivalList} {r : Registry}

lemma perm_sorted (l : ArrivalList) : l.sorted.Perm l.cues := List.mergeSort_perm _ _

lemma sorted_outranks (l : ArrivalList) : l.sorted.Pairwise fun c d => outranks c d = true :=
  List.pairwise_mergeSort outranks_trans outranks_total _

/-- Sorting leaves the cues of each priority as they arrived. -/
lemma filter_sorted (l : ArrivalList) (n : ℕ) :
    l.sorted.filter (fun c => c.priority.value = n) =
      l.cues.filter (fun c => c.priority.value = n) := by
  have hpair : (l.cues.filter fun c => decide (c.priority.value = n)).Pairwise
      fun c d => outranks c d = true := by
    refine List.pairwise_of_forall_mem_list ?_
    intro c hc d hd
    have hcn : c.priority.value = n := by simpa using (List.mem_filter.mp hc).2
    have hdn : d.priority.value = n := by simpa using (List.mem_filter.mp hd).2
    simp [outranks, hcn, hdn]
  -- they are sorted already, so they stay in a row, and none is lost
  have hsub := (List.sublist_mergeSort outranks_trans outranks_total hpair
    List.filter_sublist).filter fun c => decide (c.priority.value = n)
  simp only [List.filter_filter, Bool.and_self] at hsub
  exact (hsub.eq_of_length ((perm_sorted l).filter _).length_eq.symm).symm

/-- Cues that arrived by their sequences are sorted in the order of their keys. -/
lemma sorted_inOrder (h : l.cues.Pairwise fun c d => c.sequence < d.sequence) :
    l.sorted.Pairwise fun c d => (OrderKey.of c).Before (.of d) := by
  rw [List.pairwise_iff_forall_sublist]
  intro c d hcd
  have hrank : d.priority.value ≤ c.priority.value := by
    simpa [outranks] using List.pairwise_iff_forall_sublist.mp (sorted_outranks l) hcd
  rcases Nat.lt_or_eq_of_le hrank with hlt | heq
  · exact Or.inl hlt
  · -- two cues of one priority stay as they arrived
    have hsame := hcd.filter fun e => decide (e.priority.value = c.priority.value)
    rw [filter_sorted, List.filter_cons_of_pos (by simp),
      List.filter_cons_of_pos (by simp [heq]), List.filter_nil] at hsame
    have hseq := List.pairwise_iff_forall_sublist.mp h (hsame.trans List.filter_sublist)
    exact Or.inr ⟨heq.symm, hseq⟩

/-! ### The list and the queue side by side -/

/-- The list holds the same cues as the queue, by their sequences, and numbers them alike. -/
structure Holds (l : ArrivalList) (r : Registry) : Prop where
  sound : r.Sound
  next_eq : r.nextSequence.toNat = l.arrived + 1
  perm : r.snapshot.Perm l.cues
  inArrival : l.cues.Pairwise fun c d => c.sequence < d.sequence

lemma Holds.sorted_eq (h : l.Holds r) : l.sorted = r.snapshot := by
  refine List.Perm.eq_of_pairwise ?_ (sorted_inOrder h.inArrival) h.sound.snapshot_inOrder
    ((perm_sorted l).trans h.perm.symm)
  intro c d _ _ hcd hdc
  exact absurd hdc hcd.asymm

lemma Holds.length_eq (h : l.Holds r) : l.cues.length = r.size := by
  rw [← Registry.length_snapshot, h.perm.length_eq]

lemma Holds.insert (h : l.Holds r) (id : CueId) (now : Instant) (priority : Priority)
    (payload : Fields) (room : r.nextSequence.toNat + 1 < 2 ^ 64) :
    (r.insert id now priority payload).1 = (l.insert id now priority payload).1 ∧
      (l.insert id now priority payload).2.Holds (r.insert id now priority payload).2 := by
  have hnum : (l.arrived + 1).toUInt64 = r.nextSequence := by
    rw [← h.next_eq, Nat.toUInt64_eq, UInt64.ofNat_toNat]
  have hcues : (l.insert id now priority payload).2.cues =
      l.cues ++ [r.arrival id now priority payload] := by
    simp only [ArrivalList.insert, Registry.arrival, hnum]
  constructor
  · rw [h.sound.receipt_insert]
    simp only [ArrivalList.insert, hnum, List.length_append, List.length_singleton, h.length_eq]
  · refine ⟨h.sound.insert id now priority payload room, ?_, ?_, ?_⟩
    · rw [Registry.nextSequence_insert, Registry.toNat_add_one room, h.next_eq]
      rfl
    · rw [hcues]
      exact (h.sound.perm_snapshot_insert id now priority payload).trans
        ((h.perm.cons _).trans (List.perm_append_singleton _ _).symm)
    · rw [hcues, List.pairwise_append]
      refine ⟨h.inArrival, List.pairwise_singleton _ _, ?_⟩
      intro c hc d hd
      rw [List.mem_singleton.mp hd, Registry.sequence_arrival]
      exact (h.sound.snapshot_numbered c (h.perm.mem_iff.mpr hc)).2

/-- The head of the queue has the highest pending priority, and in the list it comes after cues of
lower priority only. -/
lemma Holds.split_at_head (h : l.Holds r) {c : Cue} (hc : r.snapshot.head? = some c) :
    l.isTop c = true ∧ ∃ front back, l.cues = front ++ c :: back ∧
      ∀ d ∈ front, l.isTop d = false := by
  obtain ⟨rest, hrest⟩ := List.head?_eq_some_iff.mp hc
  have hmem : c ∈ l.cues := h.perm.mem_iff.mp (by rw [hrest]; exact List.mem_cons_self)
  have hbefore : ∀ d ∈ l.cues, d = c ∨ (OrderKey.of c).Before (.of d) := by
    intro d hd
    have hd' := h.perm.mem_iff.mpr hd
    rw [hrest] at hd'
    refine (List.mem_cons.mp hd').imp_right fun hd' => h.sound.before_of_head hc ?_
    rwa [hrest]
  have htop : l.top? = some c.priority.value := by
    rw [top?, List.max?_eq_some_iff]
    refine ⟨List.mem_map_of_mem hmem, ?_⟩
    intro n hn
    obtain ⟨d, hd, rfl⟩ := List.mem_map.mp hn
    rcases hbefore d hd with rfl | hlt | ⟨heq, -⟩
    · exact Nat.le_refl _
    · exact Nat.le_of_lt hlt
    · exact Nat.le_of_eq heq.symm
  -- what arrived before the head and is still there does not go before it
  obtain ⟨front, back, hsplit⟩ := List.append_of_mem hmem
  refine ⟨by simp [isTop, htop], front, back, hsplit, ?_⟩
  intro d hd
  have hseq : d.sequence < c.sequence := by
    have harr := h.inArrival
    rw [hsplit] at harr
    exact (List.pairwise_append.mp harr).2.2 d hd c List.mem_cons_self
  rcases hbefore d (by rw [hsplit]; exact List.mem_append_left _ hd) with rfl | hlt | ⟨-, hlt⟩
  · exact absurd hseq (UInt64.lt_irrefl _)
  · have hne : c.priority.value ≠ d.priority.value := Nat.ne_of_gt hlt
    simpa [isTop, htop] using hne
  · exact absurd hseq (UInt64.lt_asymm hlt)

lemma Holds.claim (h : l.Holds r) : r.claim.1 = l.claim.1 ∧ l.claim.2.Holds r.claim.2 := by
  have hsub : l.claim.2.cues.Sublist l.cues := List.eraseP_sublist
  cases hhead : r.snapshot.head? with
  | none =>
    have hnil : r.snapshot = [] := List.head?_eq_none_iff.mp hhead
    have hcues : l.cues = [] := List.nil_perm.mp (hnil ▸ h.perm)
    refine ⟨?_, h.sound.claim, ?_, ?_, h.inArrival.sublist hsub⟩
    · rw [Registry.fst_claim, hhead]
      simp [ArrivalList.claim, hcues]
    · rw [Registry.nextSequence_claim, h.next_eq]
      rfl
    · simp [ArrivalList.claim, hcues, hnil]
  | some c =>
    obtain ⟨htop, front, back, hsplit, hfront⟩ := h.split_at_head hhead
    obtain ⟨rest, hrest⟩ := List.head?_eq_some_iff.mp hhead
    have herase : l.claim.2.cues = front ++ back := by
      simp only [ArrivalList.claim]
      rw [hsplit, List.eraseP_append_right _ (by simpa using hfront),
        List.eraseP_cons_of_pos htop]
    refine ⟨?_, h.sound.claim, ?_, ?_, h.inArrival.sublist hsub⟩
    · rw [Registry.fst_claim, hhead]
      refine (List.find?_eq_some_iff_append.mpr ⟨htop, front, back, hsplit, ?_⟩).symm
      simpa using hfront
    · rw [Registry.nextSequence_claim, h.next_eq]
      rfl
    · rw [Registry.snapshot_claim, herase, hrest, List.tail_cons]
      refine List.Perm.cons_inv (a := c) ?_
      rw [← hrest]
      exact h.perm.trans (hsplit ▸ List.perm_middle)

/-- What one call keeps: the two give the same answer and stay side by side. -/
lemma Holds.perform (h : l.Holds r) {call : Registry.Call}
    (room : r.nextSequence.toNat + 1 < 2 ^ 64 ∨ call.isInsert = false) :
    (r.perform call).1 = (l.perform call).1 ∧ (l.perform call).2.Holds (r.perform call).2 := by
  cases call with
  | insert id now priority payload =>
    obtain ⟨hanswer, hholds⟩ :=
      h.insert id now priority payload (room.resolve_right (by simp [Registry.Call.isInsert]))
    exact ⟨congrArg Registry.Answer.receipt hanswer, hholds⟩
  | claim =>
    obtain ⟨hanswer, hholds⟩ := h.claim
    exact ⟨congrArg Registry.Answer.claimed hanswer, hholds⟩
  | snapshot => exact ⟨congrArg Registry.Answer.cues h.sorted_eq.symm, h⟩
  | peek limit =>
    refine ⟨congrArg Registry.Answer.cues ?_, h⟩
    rw [h.sorted_eq, Registry.peek_eq_take]
  | size => exact ⟨congrArg Registry.Answer.count h.length_eq.symm, h⟩
  | isEmpty =>
    refine ⟨congrArg Registry.Answer.flag ?_, h⟩
    have hlen : r.pending.length = l.cues.length := h.length_eq.symm
    rw [Registry.isEmpty, Bool.eq_iff_iff, List.isEmpty_iff_length_eq_zero,
      List.isEmpty_iff_length_eq_zero, hlen]

/-- The list has a cue to hand out unless it is empty. -/
lemma claim_eq_none_iff (l : ArrivalList) : l.claim.1 = none ↔ l.cues = [] := by
  constructor
  · intro hnone
    by_contra hne
    have htop : l.top? ≠ none := by simpa [top?] using hne
    obtain ⟨n, hn⟩ := Option.ne_none_iff_exists'.mp htop
    obtain ⟨c, hc, rfl⟩ := List.mem_map.mp (List.max?_mem hn)
    exact absurd (List.find?_eq_none.mp hnone c hc) (by simp [isTop, hn])
  · intro hnil
    simp [ArrivalList.claim, hnil]

/-! ### Whole runs -/

/-- After a run the two stand side by side, and they have given the same answers. -/
lemma holds_after {calls : List Registry.Call} (few : Registry.arrivals calls < 2 ^ 64 - 1) :
    (after calls).Holds (Registry.after calls) ∧
      Run.outputs Registry.perform {} calls = Run.outputs perform {} calls := by
  induction calls using List.reverseRecOn with
  | nil => exact ⟨⟨Registry.sound_empty, rfl, List.Perm.nil, List.Pairwise.nil⟩, rfl⟩
  | append_singleton calls call ih =>
    have hfew := Nat.lt_of_le_of_lt (Registry.arrivals_le_concat calls call) few
    obtain ⟨hholds, hanswers⟩ := ih hfew
    obtain ⟨hanswer, hholds'⟩ :=
      hholds.perform (Registry.room_of_few (Registry.nextSequence_after hfew) few)
    rw [Run.outputs_concat, Run.outputs_concat, hanswers]
    refine ⟨?_, congrArg _ (congrArg (fun a => [a]) hanswer)⟩
    rw [after, Run.after_concat, Registry.after_concat]
    exact hholds'

/-- **The queue answers as a plain list.**  In every run with fewer than 2^64 - 1 arrivals the queue
gives the answers of the list of arrivals: snapshots are the list sorted by priority, peeks are the
front of it, a claim takes the first cue of the highest pending priority, and the sizes are those
of the list.  A claim comes away with nothing exactly when the list is empty. -/
theorem queue_answers_as_list (calls : List Registry.Call)
    (few : Registry.arrivals calls < 2 ^ 64 - 1) :
    Run.outputs Registry.perform {} calls = Run.outputs perform {} calls ∧
      ((Registry.after calls).claim.1 = none ↔ (after calls).cues = []) := by
  obtain ⟨hholds, hanswers⟩ := holds_after few
  refine ⟨hanswers, ?_⟩
  rw [hholds.claim.1, claim_eq_none_iff]

/-- A run with arrivals of two priorities, and claims and looks between them and after them. -/
theorem queue_answers_as_list_of_mixed_calls :
    let calls : List Registry.Call :=
      [.insert ⟨"a"⟩ ⟨3⟩ (.clamped 10) [], .insert ⟨"b"⟩ ⟨2⟩ (.clamped 900) [], .claim,
        .insert ⟨"c"⟩ ⟨1⟩ (.clamped 10) [("priority", .null)], .insert ⟨"d"⟩ ⟨0⟩ (.clamped 90) [],
        .peek 2, .snapshot, .claim, .size, .claim, .claim, .claim, .isEmpty]
    Registry.arrivals calls < 2 ^ 64 - 1 ∧
      Run.outputs Registry.perform {} calls = Run.outputs perform {} calls ∧
        ((Registry.after calls).claim.1 = none ↔ (after calls).cues = []) :=
  ⟨by decide, queue_answers_as_list _ (by decide)⟩

end ArrivalList

end ShowControl
