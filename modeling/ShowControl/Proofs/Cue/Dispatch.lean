/-
The order in which cues are handed out.

The calls of a run are counted from 0, and call `k` meets the queue `queueAt calls k`.  A cue comes
in at one call (`ArrivesAt`) and may be handed out by another (`ClaimedAt`).  One call has a plain
effect on what is pending (`mem_queueAt_succ`): the cue that comes in is added and the cue that is
handed out is taken away.  From this, by induction on the calls, a pending cue came in before, and a
cue that came in is pending until it is handed out.

The main result is `dispatch_order`: a claim goes to the head of the order, cues of one priority are
handed out as they came in, and claims in a row follow the order.
-/
import Mathlib.Data.Nat.Init
import ShowControl.Proofs.Cue.Calls

namespace ShowControl.Registry

/-- The queue that call `k` of a run meets. -/
def queueAt (calls : List Call) (k : ℕ) : Registry := after (calls.take k)

/-- The cue comes in at call `k`. -/
def ArrivesAt (calls : List Call) (k : ℕ) (c : Cue) : Prop :=
  ∃ id now priority payload, calls[k]? = some (.insert id now priority payload) ∧
    c = (queueAt calls k).arrival id now priority payload

/-- The cue is handed out by call `k`. -/
def ClaimedAt (calls : List Call) (k : ℕ) (c : Cue) : Prop :=
  calls[k]? = some .claim ∧ (queueAt calls k).claim.1 = some c

/-- One cue comes in before another one does. -/
def ArrivesBefore (calls : List Call) (c d : Cue) : Prop :=
  ∃ i j, i < j ∧ ArrivesAt calls i c ∧ ArrivesAt calls j d

variable {calls : List Call} {i j k l : ℕ} {c d : Cue}

/-! ### One call -/

lemma queueAt_succ {call : Call} (h : calls[k]? = some call) :
    queueAt calls (k + 1) = ((queueAt calls k).perform call).2 :=
  Run.after_take_succ perform {} h

lemma queueAt_succ_of_none (h : calls[k]? = none) : queueAt calls (k + 1) = queueAt calls k := by
  rw [queueAt, List.take_add_one, h, Option.toList_none, List.append_nil, queueAt]

lemma arrivals_take_le (calls : List Call) (k : ℕ) : arrivals (calls.take k) ≤ arrivals calls :=
  (List.take_sublist k calls).countP_le

lemma sound_queueAt (few : arrivals calls < 2 ^ 64 - 1) (k : ℕ) : (queueAt calls k).Sound :=
  sound_after (Nat.lt_of_le_of_lt (arrivals_take_le calls k) few)

/-- A claim takes away the head and nothing else. -/
lemma Sound.mem_tail_iff {r : Registry} (h : r.Sound) :
    c ∈ r.snapshot.tail ↔ c ∈ r.snapshot ∧ r.snapshot.head? ≠ some c := by
  have hnodup := h.snapshot_nodup
  cases hs : r.snapshot with
  | nil => simp
  | cons head rest =>
    rw [hs] at hnodup
    rw [List.tail_cons, List.head?_cons, List.mem_cons, ne_eq, Option.some.injEq]
    constructor
    · intro hc
      refine ⟨Or.inr hc, ?_⟩
      rintro rfl
      exact (List.nodup_cons.mp hnodup).1 hc
    · rintro ⟨hc | hc, hne⟩
      · exact absurd hc.symm hne
      · exact hc

/-- What is pending after a call: what comes in, and what was pending and is not handed out. -/
lemma mem_queueAt_succ (few : arrivals calls < 2 ^ 64 - 1) :
    c ∈ (queueAt calls (k + 1)).snapshot ↔
      ArrivesAt calls k c ∨ c ∈ (queueAt calls k).snapshot ∧ ¬ ClaimedAt calls k c := by
  have hsound := sound_queueAt few k
  cases hcall : calls[k]? with
  | none => simp [queueAt_succ_of_none hcall, ArrivesAt, ClaimedAt, hcall]
  | some call =>
    rw [queueAt_succ hcall]
    cases call with
    | insert id now priority payload =>
      have hperm := hsound.perm_snapshot_insert id now priority payload
      rw [show ((queueAt calls k).perform (.insert id now priority payload)).2 =
        ((queueAt calls k).insert id now priority payload).2 from rfl, hperm.mem_iff]
      simp [ArrivesAt, ClaimedAt, hcall]
    | claim =>
      rw [show ((queueAt calls k).perform .claim).2 = (queueAt calls k).claim.2 from rfl,
        snapshot_claim, hsound.mem_tail_iff]
      simp [ArrivesAt, ClaimedAt, hcall]
    | snapshot => simp [ArrivesAt, ClaimedAt, hcall, perform]
    | peek limit => simp [ArrivesAt, ClaimedAt, hcall, perform]
    | size => simp [ArrivesAt, ClaimedAt, hcall, perform]
    | isEmpty => simp [ArrivesAt, ClaimedAt, hcall, perform]

lemma ClaimedAt.head (h : ClaimedAt calls k c) : (queueAt calls k).snapshot.head? = some c :=
  fst_claim ▸ h.2

lemma ClaimedAt.pending (h : ClaimedAt calls k c) : c ∈ (queueAt calls k).snapshot :=
  List.mem_of_mem_head? h.head

/-- A cue goes before all that is still pending when it has been handed out. -/
lemma ClaimedAt.before (few : arrivals calls < 2 ^ 64 - 1) (h : ClaimedAt calls k c)
    (hd : d ∈ (queueAt calls (k + 1)).snapshot) : (OrderKey.of c).Before (.of d) := by
  rw [queueAt_succ h.1] at hd
  exact (sound_queueAt few k).before_of_head h.head (snapshot_claim ▸ hd)

/-! ### Numbers and the order of arrival -/

lemma ArrivesAt.isInsert (h : ArrivesAt calls k c) :
    ∃ call, calls[k]? = some call ∧ call.isInsert = true := by
  obtain ⟨id, now, priority, payload, hcall, -⟩ := h
  exact ⟨_, hcall, rfl⟩

/-- The number of a cue counts the arrivals up to its own. -/
lemma ArrivesAt.sequence_toNat (few : arrivals calls < 2 ^ 64 - 1) (h : ArrivesAt calls k c) :
    c.sequence.toNat = arrivals (calls.take k) + 1 := by
  obtain ⟨id, now, priority, payload, -, rfl⟩ := h
  exact nextSequence_after (Nat.lt_of_le_of_lt (arrivals_take_le calls k) few)

lemma arrivals_take_mono (calls : List Call) (h : i ≤ j) :
    arrivals (calls.take i) ≤ arrivals (calls.take j) :=
  (List.take_sublist_take_left h).countP_le

lemma arrivals_take_succ {call : Call} (hcall : calls[i]? = some call)
    (hins : call.isInsert = true) :
    arrivals (calls.take (i + 1)) = arrivals (calls.take i) + 1 := by
  rw [List.take_add_one, hcall, Option.toList_some, arrivals_concat, hins, if_pos rfl]

/-- Cues are numbered as they come in. -/
lemma ArrivesAt.sequence_lt_iff (few : arrivals calls < 2 ^ 64 - 1) (hc : ArrivesAt calls i c)
    (hd : ArrivesAt calls j d) : c.sequence < d.sequence ↔ i < j := by
  rw [UInt64.lt_iff_toNat_lt, hc.sequence_toNat few, hd.sequence_toNat few]
  constructor
  · intro hlt
    by_contra hij
    have hmono := arrivals_take_mono calls (Nat.le_of_not_lt hij)
    omega
  · intro hij
    obtain ⟨call, hcall, hins⟩ := hc.isInsert
    have hsucc := arrivals_take_succ hcall hins
    have hmono : arrivals (calls.take (i + 1)) ≤ arrivals (calls.take j) :=
      arrivals_take_mono calls hij
    omega

/-! ### Runs -/

/-- A pending cue came in before. -/
lemma exists_arrivesAt (few : arrivals calls < 2 ^ 64 - 1)
    (h : c ∈ (queueAt calls l).snapshot) : ∃ i < l, ArrivesAt calls i c := by
  induction l with
  | zero =>
    -- a run starts with nothing pending
    exact absurd h (by simp [queueAt, snapshot])
  | succ l ih =>
    rcases (mem_queueAt_succ few).mp h with harr | ⟨hpend, -⟩
    · exact ⟨l, Nat.lt_succ_self l, harr⟩
    · obtain ⟨i, hi, harr⟩ := ih hpend
      exact ⟨i, Nat.lt_succ_of_lt hi, harr⟩

/-- A cue that came in is pending until it is handed out. -/
lemma ArrivesAt.pending_or_claimed (few : arrivals calls < 2 ^ 64 - 1) (h : ArrivesAt calls i c)
    (hil : i < l) :
    c ∈ (queueAt calls l).snapshot ∨ ∃ k, i < k ∧ k < l ∧ ClaimedAt calls k c := by
  induction l, hil using Nat.le_induction with
  | base => exact Or.inl ((mem_queueAt_succ few).mpr (Or.inl h))
  | succ l hil ih =>
    rcases ih with hpend | ⟨k, hik, hkl, hclaim⟩
    · by_cases hclaim : ClaimedAt calls l c
      · exact Or.inr ⟨l, hil, Nat.lt_succ_self l, hclaim⟩
      · exact Or.inl ((mem_queueAt_succ few).mpr (Or.inr ⟨hpend, hclaim⟩))
    · exact Or.inr ⟨k, hik, Nat.lt_succ_of_lt hkl, hclaim⟩

/-- What is pending after calls that bring in nothing was pending before them. -/
lemma pending_of_no_arrival (few : arrivals calls < 2 ^ 64 - 1) (hkl : k ≤ l)
    (hno : ∀ m, k ≤ m → m < l → ∀ call, calls[m]? = some call → call.isInsert = false)
    (h : c ∈ (queueAt calls l).snapshot) : c ∈ (queueAt calls k).snapshot := by
  induction l, hkl using Nat.le_induction with
  | base => exact h
  | succ l hkl ih =>
    rcases (mem_queueAt_succ few).mp h with harr | ⟨hpend, -⟩
    · obtain ⟨call, hcall, hins⟩ := harr.isInsert
      rw [hno l hkl (Nat.lt_succ_self l) call hcall] at hins
      exact absurd hins (by simp)
    · exact ih (fun m hkm hml => hno m hkm (Nat.lt_succ_of_lt hml)) hpend

/-- Of two cues that are both in the run, the one with the lower number came in first and the other
one did not. -/
lemma arrivesBefore_of_sequence_lt (few : arrivals calls < 2 ^ 64 - 1)
    (hc : ArrivesAt calls i c) (hd : ArrivesAt calls j d) (hlt : c.sequence < d.sequence) :
    ArrivesBefore calls c d ∧ ¬ ArrivesBefore calls d c := by
  refine ⟨⟨i, j, (hc.sequence_lt_iff few hd).mp hlt, hc, hd⟩, ?_⟩
  rintro ⟨j', i', hlt', hd', hc'⟩
  exact UInt64.lt_asymm hlt ((hd'.sequence_lt_iff few hc').mpr hlt')

/-- **The order of dispatch.**  In every run with fewer than 2^64 - 1 arrivals:
* when a claim hands out a cue, every cue that is still pending has a lower priority, or the same
  one and came in later;
* of two cues of one priority, the one that came in later is not handed out before the other one;
* claims with no arrival in between hand out cues of falling priorities, and within a priority by
  rising numbers. -/
theorem dispatch_order (calls : List Call) (few : arrivals calls < 2 ^ 64 - 1) :
    (∀ k c, ClaimedAt calls k c → ∀ d ∈ (queueAt calls (k + 1)).snapshot,
      d.priority.value < c.priority.value ∨
        d.priority = c.priority ∧ ArrivesBefore calls c d ∧ ¬ ArrivesBefore calls d c) ∧
    (∀ i j c d, ArrivesAt calls i c → ArrivesAt calls j d → i < j → c.priority = d.priority →
      ∀ l, ClaimedAt calls l d → ∃ k < l, ClaimedAt calls k c) ∧
    ∀ k l c d, ClaimedAt calls k c → ClaimedAt calls l d → k < l →
      (∀ m, k < m → m < l → ∀ call, calls[m]? = some call → call.isInsert = false) →
      d.priority.value < c.priority.value ∨
        d.priority = c.priority ∧ c.sequence < d.sequence := by
  refine ⟨?_, ?_, ?_⟩
  · intro k c hclaim d hd
    obtain ⟨i, -, hc⟩ := exists_arrivesAt few hclaim.pending
    obtain ⟨j, -, hd'⟩ := exists_arrivesAt few hd
    rcases hclaim.before few hd with hlt | ⟨heq, hlt⟩
    · exact Or.inl hlt
    · exact Or.inr ⟨(Priority.eq_of_value_eq heq).symm, arrivesBefore_of_sequence_lt few hc hd' hlt⟩
  · intro i j c d hc hd hij hprio l hclaim
    -- the later cue came in before its claim, so the earlier one did
    have hjl : j < l := by
      obtain ⟨j', hj', hd'⟩ := exists_arrivesAt few hclaim.pending
      by_contra hlj
      have hlt := (hd'.sequence_lt_iff few hd).mpr (by omega)
      exact UInt64.lt_irrefl _ hlt
    rcases hc.pending_or_claimed few (Nat.lt_trans hij hjl) with hpend | ⟨k, -, hkl, hclaim'⟩
    · -- were it still pending, it would go before the head of the queue
      exfalso
      have hlt := (hc.sequence_lt_iff few hd).mpr hij
      by_cases hcd : c = d
      · exact UInt64.lt_irrefl _ (hcd ▸ hlt)
      · have htail := (sound_queueAt few l).mem_tail_iff.mpr
          ⟨hpend, fun hhead => hcd (Option.some.inj (hhead.symm.trans hclaim.head))⟩
        rcases (sound_queueAt few l).before_of_head hclaim.head htail with hp | ⟨-, hs⟩
        · exact absurd hp (by simp [OrderKey.of, hprio])
        · exact UInt64.lt_asymm hlt hs
    · exact ⟨k, hkl, hclaim'⟩
  · intro k l c d hc hd hkl hno
    -- the second cue was pending already when the first one was handed out
    have hpend := pending_of_no_arrival few (Nat.succ_le_of_lt hkl) hno hd.pending
    rcases hc.before few hpend with hlt | ⟨heq, hlt⟩
    · exact Or.inl hlt
    · exact Or.inr ⟨(Priority.eq_of_value_eq heq).symm, hlt⟩

/-- A run in which a cue of a higher priority and a claim come between two cues of one priority. -/
theorem dispatch_order_of_two_equals :
    let calls : List Call :=
      [.insert ⟨"a"⟩ ⟨0⟩ (.clamped 50) [], .insert ⟨"b"⟩ ⟨0⟩ (.clamped 80) [], .claim,
        .insert ⟨"c"⟩ ⟨0⟩ (.clamped 50) [], .claim, .claim]
    arrivals calls < 2 ^ 64 - 1 ∧
      ∃ c d, ArrivesAt calls 0 c ∧ ArrivesAt calls 3 d ∧ ClaimedAt calls 5 d ∧
        ∃ k < 5, ClaimedAt calls k c := by
  intro calls
  have few : arrivals calls < 2 ^ 64 - 1 := by decide
  have hc : ArrivesAt calls 0 ((queueAt calls 0).arrival ⟨"a"⟩ ⟨0⟩ (.clamped 50) []) :=
    ⟨_, _, _, _, rfl, rfl⟩
  have hd : ArrivesAt calls 3 ((queueAt calls 3).arrival ⟨"c"⟩ ⟨0⟩ (.clamped 50) []) :=
    ⟨_, _, _, _, rfl, rfl⟩
  have hclaim : ClaimedAt calls 5 ((queueAt calls 3).arrival ⟨"c"⟩ ⟨0⟩ (.clamped 50) []) :=
    ⟨rfl, rfl⟩
  exact ⟨few, _, _, hc, hd, hclaim,
    (dispatch_order calls few).2.1 0 3 _ _ hc hd (by decide) rfl 5 hclaim⟩

end ShowControl.Registry
