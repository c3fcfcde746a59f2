/-
What always holds of the queue.

`Registry.Sound` collects it: the entries stand in the order of their keys, each under the key of
its own cue, and the sequences are numbers that were handed out, each to one cue.  An arrival keeps
it as long as there is a number left for the next one, and a claim keeps it always.  A sound queue
has a plain account of what its operations do: an arrival adds its cue to the snapshot, after the
cues that go before it, and a claim takes the head off.
-/
import ShowControl.Proofs.Cue.Order

namespace ShowControl.Registry

lemma toNat_add_one {s : UInt64} (h : s.toNat + 1 < 2 ^ 64) : (s + 1).toNat = s.toNat + 1 := by
  rw [UInt64.toNat_add, UInt64.toNat_one, Nat.mod_eq_of_lt h]

/-- The invariant of the queue. -/
structure Sound (r : Registry) : Prop where
  /-- The entries stand in the order of their keys. -/
  inOrder : InOrder r.pending
  /-- Every entry stands under the key of its cue. -/
  keyed : ∀ e ∈ r.pending, e.1 = .of e.2
  /-- Numbers are handed out from 1. -/
  next_pos : 0 < r.nextSequence.toNat
  /-- Every sequence is a number that was handed out. -/
  numbered : ∀ e ∈ r.pending, 0 < e.2.sequence.toNat ∧ e.2.sequence < r.nextSequence
  /-- No two pending cues share a sequence. -/
  distinct : r.pending.Pairwise fun a b => a.2.sequence ≠ b.2.sequence

variable {r : Registry}

lemma sound_empty : Sound {} where
  inOrder := List.Pairwise.nil
  keyed := by simp
  next_pos := by decide
  numbered := by simp
  distinct := List.Pairwise.nil

lemma mem_snapshot {c : Cue} : c ∈ r.snapshot ↔ ∃ e ∈ r.pending, e.2 = c := List.mem_map

@[simp] lemma length_snapshot : r.snapshot.length = r.size := List.length_map _

/-- A peek is the front of the snapshot. -/
lemma peek_eq_take (r : Registry) (limit : ℕ) : r.peek limit = r.snapshot.take limit :=
  List.map_take

lemma length_peek_le (r : Registry) (limit : ℕ) : (r.peek limit).length ≤ limit := by
  rw [peek_eq_take]
  exact List.length_take_le limit _

/-- A peek that is wide enough shows everything. -/
lemma peek_of_size_le {limit : ℕ} (h : r.size ≤ limit) : r.peek limit = r.snapshot := by
  rw [peek_eq_take, List.take_of_length_le (by rwa [length_snapshot])]

/-! ### Arrivals -/

section Arrivals

variable (id : CueId) (now : Instant) (priority : Priority) (payload : Fields)

@[simp] lemma sequence_arrival :
    (r.arrival id now priority payload).sequence = r.nextSequence := rfl

@[simp] lemma nextSequence_insert :
    (r.insert id now priority payload).2.nextSequence = r.nextSequence + 1 := rfl

/-- The key of an arrival is not there yet. -/
lemma Sound.fresh (h : r.Sound) :
    ∀ e ∈ r.pending, e.1 ≠ .of (r.arrival id now priority payload) := by
  intro e he heq
  have hseq : e.2.sequence = r.nextSequence := by
    have hkey := (h.keyed e he).symm.trans heq
    simpa [OrderKey.of, arrival] using congrArg OrderKey.sequence hkey
  exact UInt64.lt_irrefl _ (hseq ▸ (h.numbered e he).2)

/-- An arrival is placed after the pending cues of its priority or a higher one, and before those of
a lower one. -/
lemma Sound.insert_split (h : r.Sound) :
    ∃ front back, r.pending = front ++ back ∧
      (r.insert id now priority payload).2.pending =
        front ++ (.of (r.arrival id now priority payload),
          r.arrival id now priority payload) :: back ∧
      (∀ e ∈ front, priority.value ≤ e.2.priority.value) ∧
      ∀ e ∈ back, e.2.priority.value < priority.value := by
  obtain ⟨front, back, hsplit, hplace, hfront, hback⟩ :=
    place_split (r.arrival id now priority payload) h.inOrder (h.fresh id now priority payload)
  have hmem : ∀ e, e ∈ front ∨ e ∈ back → e ∈ r.pending := by
    intro e he
    rw [hsplit]
    exact List.mem_append.mpr he
  refine ⟨front, back, hsplit, hplace, ?_, ?_⟩
  · intro e he
    have hb := hfront e he
    rw [h.keyed e (hmem e (Or.inl he))] at hb
    rcases hb with hb | ⟨hb, -⟩
    · exact Nat.le_of_lt hb
    · exact Nat.le_of_eq hb.symm
  · intro e he
    have hb := hback e he
    rw [h.keyed e (hmem e (Or.inr he))] at hb
    rcases hb with hb | ⟨-, hb⟩
    · exact hb
    · -- an arrival has the highest number, so nothing of its priority comes after it
      exact absurd hb (UInt64.lt_asymm (h.numbered e (hmem e (Or.inr he))).2)

/-- An arrival adds its own entry and loses none. -/
lemma Sound.perm_insert (h : r.Sound) :
    (r.insert id now priority payload).2.pending.Perm
      ((.of (r.arrival id now priority payload), r.arrival id now priority payload) ::
        r.pending) :=
  perm_place _ h.inOrder (h.fresh id now priority payload)

lemma Sound.perm_snapshot_insert (h : r.Sound) :
    (r.insert id now priority payload).2.snapshot.Perm
      (r.arrival id now priority payload :: r.snapshot) :=
  (h.perm_insert id now priority payload).map _

lemma Sound.size_insert (h : r.Sound) :
    (r.insert id now priority payload).2.size = r.size + 1 :=
  (h.perm_insert id now priority payload).length_eq

/-- An arrival is told its own id, its number and the size of the queue with it. -/
lemma Sound.receipt_insert (h : r.Sound) :
    (r.insert id now priority payload).1 = ⟨id, r.nextSequence, r.size + 1⟩ :=
  congrArg (Receipt.mk id r.nextSequence) (h.size_insert id now priority payload)

lemma Sound.insert (h : r.Sound) (room : r.nextSequence.toNat + 1 < 2 ^ 64) :
    (r.insert id now priority payload).2.Sound := by
  have hnext := toNat_add_one room
  have hperm := h.perm_insert id now priority payload
  have hlater : ∀ {s : UInt64}, s < r.nextSequence → s < r.nextSequence + 1 := by
    intro s hs
    rw [UInt64.lt_iff_toNat_lt] at hs ⊢
    omega
  constructor
  · exact inOrder_place _ h.inOrder (h.fresh id now priority payload)
  · intro e he
    rcases List.mem_cons.mp (hperm.mem_iff.mp he) with rfl | he
    · rfl
    · exact h.keyed e he
  · rw [nextSequence_insert, hnext]
    exact Nat.succ_pos _
  · intro e he
    rw [nextSequence_insert]
    rcases List.mem_cons.mp (hperm.mem_iff.mp he) with rfl | he
    · refine ⟨h.next_pos, ?_⟩
      rw [UInt64.lt_iff_toNat_lt, hnext]
      exact Nat.lt_succ_self _
    · exact ⟨(h.numbered e he).1, hlater (h.numbered e he).2⟩
  · -- the new number is above all that were handed out before
    refine (hperm.pairwise_iff fun hab => hab.symm).mpr (List.pairwise_cons.mpr ⟨?_, h.distinct⟩)
    intro e he heq
    exact UInt64.lt_irrefl _ (heq ▸ (h.numbered e he).2)

/-- One queue gains a cue and becomes another one: the cue was not pending before, it took the next
number, and it stands under its own key among the other entries, which are as they were. -/
structure Gains (r r' : Registry) (c : Cue) : Prop where
  not_pending : c ∉ r.snapshot
  sequence_eq : c.sequence = r.nextSequence
  next_eq : r'.nextSequence.toNat = r.nextSequence.toNat + 1
  among_others : ∃ front back, r.pending = front ++ back ∧
    r'.pending = front ++ (.of c, c) :: back

lemma Sound.gains_insert (h : r.Sound) (room : r.nextSequence.toNat + 1 < 2 ^ 64) :
    r.Gains (r.insert id now priority payload).2 (r.arrival id now priority payload) where
  not_pending := by
    intro hmem
    obtain ⟨e, he, heq⟩ := mem_snapshot.mp hmem
    exact h.fresh id now priority payload e he (by rw [h.keyed e he, heq])
  sequence_eq := rfl
  next_eq := toNat_add_one room
  among_others := by
    obtain ⟨front, back, hsplit, hplace, -⟩ := h.insert_split id now priority payload
    exact ⟨front, back, hsplit, hplace⟩

end Arrivals

/-! ### Claims -/

lemma claim_eq : r.claim = (r.snapshot.head?, { r with pending := r.pending.tail }) := by
  obtain ⟨next, pending⟩ := r
  cases pending with
  | nil => rfl
  | cons entry rest => rfl

@[simp] lemma fst_claim : r.claim.1 = r.snapshot.head? := by rw [claim_eq]

@[simp] lemma nextSequence_claim : r.claim.2.nextSequence = r.nextSequence := by rw [claim_eq]

@[simp] lemma pending_claim : r.claim.2.pending = r.pending.tail := by rw [claim_eq]

@[simp] lemma snapshot_claim : r.claim.2.snapshot = r.snapshot.tail := by
  rw [snapshot, pending_claim, List.map_tail, snapshot]

/-- A claim makes the queue shorter by what it hands out. -/
lemma size_claim (r : Registry) : r.claim.2.size + r.claim.1.toList.length = r.size := by
  rw [← length_snapshot, ← length_snapshot, fst_claim, snapshot_claim]
  cases r.snapshot with
  | nil => rfl
  | cons c rest => rfl

lemma Sound.claim (h : r.Sound) : r.claim.2.Sound := by
  have hmem : ∀ e ∈ r.claim.2.pending, e ∈ r.pending := by
    rw [pending_claim]
    exact fun e he => List.mem_of_mem_tail he
  have hsub : r.claim.2.pending.Sublist r.pending := by
    rw [pending_claim]
    exact List.tail_sublist _
  constructor
  · exact h.inOrder.sublist hsub
  · exact fun e he => h.keyed e (hmem e he)
  · rw [nextSequence_claim]
    exact h.next_pos
  · rw [nextSequence_claim]
    exact fun e he => h.numbered e (hmem e he)
  · exact h.distinct.sublist hsub

/-! ### The snapshot -/

/-- The snapshot stands in the order of the keys of its cues. -/
lemma Sound.snapshot_inOrder (h : r.Sound) :
    r.snapshot.Pairwise fun c d => (OrderKey.of c).Before (.of d) := by
  rw [snapshot, List.pairwise_map]
  refine h.inOrder.imp_of_mem ?_
  intro e e' he he' hbefore
  rwa [h.keyed e he, h.keyed e' he'] at hbefore

lemma Sound.snapshot_numbered (h : r.Sound) :
    ∀ c ∈ r.snapshot, 0 < c.sequence.toNat ∧ c.sequence < r.nextSequence := by
  intro c hc
  obtain ⟨e, he, rfl⟩ := mem_snapshot.mp hc
  exact h.numbered e he

lemma Sound.snapshot_distinct (h : r.Sound) :
    r.snapshot.Pairwise fun c d => c.sequence ≠ d.sequence :=
  List.pairwise_map.mpr h.distinct

lemma Sound.snapshot_nodup (h : r.Sound) : r.snapshot.Nodup :=
  h.snapshot_distinct.imp fun hne heq => hne (congrArg Cue.sequence heq)

/-- No other pending cue goes before the head of the queue. -/
lemma Sound.before_of_head (h : r.Sound) {c d : Cue} (hc : r.snapshot.head? = some c)
    (hd : d ∈ r.snapshot.tail) : (OrderKey.of c).Before (.of d) := by
  obtain ⟨rest, hrest⟩ := List.head?_eq_some_iff.mp hc
  have hord := h.snapshot_inOrder
  rw [hrest] at hord hd
  exact (List.pairwise_cons.mp hord).1 d hd

end ShowControl.Registry
