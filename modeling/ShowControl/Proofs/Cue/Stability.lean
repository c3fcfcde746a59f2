/-
The queue is a stable view.

A cue keeps its place among the others for as long as it is pending, and nothing about it changes.
What is listed first depends on the keys of two cues only (`Sound.listedBefore_iff`), and a cue has
one key for good: two cues of a run with one sequence came in at one call, so they are one cue
(`eq_of_sequence_eq`), and with fresh ids the same holds of ids (`eq_of_id_eq`).

The main result is `stable_view`: two points of a run list what is pending at both alike, an arrival
goes behind the pending cues of its priority or a higher one, and a claim drops the first cue.
-/
import ShowControl.Proofs.Cue.Dispatch

namespace ShowControl.Registry

/-- One cue is listed before another one. -/
def ListedBefore (r : Registry) (c d : Cue) : Prop := [c, d].Sublist r.snapshot

/-- The id of the cue that a call brings in. -/
def Call.id? : Call → Option CueId
  | .insert id .. => some id
  | _ => none

/-- No two calls of a run bring in cues of one id. -/
def FreshIds (calls : List Call) : Prop := (calls.filterMap Call.id?).Nodup

variable {calls : List Call} {r : Registry} {i j k l : ℕ} {c d : Cue}

/-- What is listed first goes first. -/
lemma Sound.listedBefore_iff (h : r.Sound) :
    r.ListedBefore c d ↔
      c ∈ r.snapshot ∧ d ∈ r.snapshot ∧ (OrderKey.of c).Before (.of d) := by
  constructor
  · intro hlisted
    exact ⟨hlisted.subset (by simp), hlisted.subset (by simp),
      List.pairwise_iff_forall_sublist.mp h.snapshot_inOrder hlisted⟩
  · rintro ⟨hc, hd, hbefore⟩
    have hord := h.snapshot_inOrder
    obtain ⟨front, back, hsplit⟩ := List.append_of_mem hc
    rw [hsplit] at hd hord
    -- the second cue is behind the first one, since it does not go before it
    have hback : d ∈ back := by
      rcases List.mem_append.mp hd with hd | hd
      · have hdc := (List.pairwise_append.mp hord).2.2 d hd c List.mem_cons_self
        exact absurd hdc hbefore.asymm
      · rcases List.mem_cons.mp hd with rfl | hd
        · exact absurd hbefore (OrderKey.Before.irrefl _)
        · exact hd
    rw [ListedBefore, hsplit]
    exact ((List.singleton_sublist.mpr hback).cons_cons c).trans (List.sublist_append_right _ _)

/-! ### One cue at two points of a run -/

/-- One call brings in one cue. -/
lemma ArrivesAt.unique (hc : ArrivesAt calls k c) (hd : ArrivesAt calls k d) : c = d := by
  obtain ⟨id, now, priority, payload, hcall, rfl⟩ := hc
  obtain ⟨id', now', priority', payload', hcall', rfl⟩ := hd
  rw [hcall, Option.some.injEq, Call.insert.injEq] at hcall'
  obtain ⟨rfl, rfl, rfl, rfl⟩ := hcall'
  rfl

lemma ArrivesAt.id? (h : ArrivesAt calls k c) : calls[k]?.bind Call.id? = some c.id := by
  obtain ⟨id, now, priority, payload, hcall, rfl⟩ := h
  rw [hcall]
  rfl

/-- With fresh ids, calls that bring in one id are one call. -/
lemma FreshIds.eq_of_id? (h : FreshIds calls) {id : CueId}
    (hk : calls[k]?.bind Call.id? = some id) (hl : calls[l]?.bind Call.id? = some id) : k = l := by
  have hpair := List.pairwise_filterMap.mp h
  rw [List.pairwise_iff_getElem] at hpair
  obtain ⟨a, ha, haid⟩ := Option.bind_eq_some_iff.mp hk
  obtain ⟨b, hb, hbid⟩ := Option.bind_eq_some_iff.mp hl
  obtain ⟨hklen, rfl⟩ := List.getElem?_eq_some_iff.mp ha
  obtain ⟨hllen, rfl⟩ := List.getElem?_eq_some_iff.mp hb
  rcases Nat.lt_trichotomy k l with hlt | heq | hlt
  · exact absurd rfl (hpair k l hklen hllen hlt id haid id hbid)
  · exact heq
  · exact absurd rfl (hpair l k hllen hklen hlt id hbid id haid)

/-- Cues of one sequence are one cue, at whatever points of the run they are pending. -/
lemma eq_of_sequence_eq (few : arrivals calls < 2 ^ 64 - 1) (hc : c ∈ (queueAt calls i).snapshot)
    (hd : d ∈ (queueAt calls j).snapshot) (h : c.sequence = d.sequence) : c = d := by
  obtain ⟨k, -, hck⟩ := exists_arrivesAt few hc
  obtain ⟨l, -, hdl⟩ := exists_arrivesAt few hd
  have hkl : ¬ k < l := fun hlt =>
    UInt64.lt_irrefl _ (h ▸ (hck.sequence_lt_iff few hdl).mpr hlt)
  have hlk : ¬ l < k := fun hlt =>
    UInt64.lt_irrefl _ (h ▸ (hdl.sequence_lt_iff few hck).mpr hlt)
  obtain rfl : k = l := by omega
  exact hck.unique hdl

/-- With fresh ids, cues of one id are one cue. -/
lemma eq_of_id_eq (few : arrivals calls < 2 ^ 64 - 1) (fresh : FreshIds calls)
    (hc : c ∈ (queueAt calls i).snapshot) (hd : d ∈ (queueAt calls j).snapshot)
    (h : c.id = d.id) : c = d := by
  obtain ⟨k, -, hck⟩ := exists_arrivesAt few hc
  obtain ⟨l, -, hdl⟩ := exists_arrivesAt few hd
  obtain rfl : k = l := fresh.eq_of_id? (h ▸ hck.id?) hdl.id?
  exact hck.unique hdl

/-! ### One arrival -/

/-- In the snapshot an arrival is placed behind the cues of its priority or a higher one. -/
lemma Sound.snapshot_insert (h : r.Sound) (id : CueId) (now : Instant) (priority : Priority)
    (payload : Fields) :
    ∃ front back, r.snapshot = front ++ back ∧
      (r.insert id now priority payload).2.snapshot =
        front ++ r.arrival id now priority payload :: back ∧
      (∀ c ∈ front, priority.value ≤ c.priority.value) ∧
      ∀ c ∈ back, c.priority.value < priority.value := by
  obtain ⟨front, back, hsplit, hplace, hfront, hback⟩ := h.insert_split id now priority payload
  refine ⟨front.map (·.2), back.map (·.2), ?_, ?_, ?_, ?_⟩
  · rw [snapshot, hsplit, List.map_append]
  · rw [snapshot, hplace, List.map_append, List.map_cons]
  · exact List.forall_mem_map.mpr hfront
  · exact List.forall_mem_map.mpr hback

/-- **A stable view.**  In every run with fewer than 2^64 - 1 arrivals:
* at any two points of it, pending cues of one sequence are the same in every field, and so are
  pending cues of one id if ids are fresh;
* of two cues that are pending at both points, the same one is listed first at both;
* at any point, an arrival is listed right behind all pending cues of its priority or a higher one,
  and before all those of a lower priority, and nothing else changes;
* at any point, a claim drops the first cue that is listed, and nothing else changes. -/
theorem stable_view (calls : List Call) (few : arrivals calls < 2 ^ 64 - 1) :
    (∀ i j, ∀ c ∈ (queueAt calls i).snapshot, ∀ d ∈ (queueAt calls j).snapshot,
      c.sequence = d.sequence ∨ FreshIds calls ∧ c.id = d.id → c = d) ∧
    (∀ i j c d, c ∈ (queueAt calls i).snapshot → c ∈ (queueAt calls j).snapshot →
      d ∈ (queueAt calls i).snapshot → d ∈ (queueAt calls j).snapshot →
      ((queueAt calls i).ListedBefore c d ↔ (queueAt calls j).ListedBefore c d)) ∧
    (∀ k id now priority payload,
      let r := queueAt calls k
      ∃ front back, r.snapshot = front ++ back ∧
        (r.insert id now priority payload).2.snapshot =
          front ++ r.arrival id now priority payload :: back ∧
        (∀ c ∈ front, priority.value ≤ c.priority.value) ∧
        ∀ c ∈ back, c.priority.value < priority.value) ∧
    ∀ k, (queueAt calls k).claim.2.snapshot = (queueAt calls k).snapshot.tail := by
  refine ⟨?_, ?_, fun k => (sound_queueAt few k).snapshot_insert, fun k => snapshot_claim⟩
  · rintro i j c hc d hd (hseq | ⟨fresh, hid⟩)
    · exact eq_of_sequence_eq few hc hd hseq
    · exact eq_of_id_eq few fresh hc hd hid
  · intro i j c d hci hcj hdi hdj
    rw [(sound_queueAt few i).listedBefore_iff, (sound_queueAt few j).listedBefore_iff]
    exact ⟨fun h => ⟨hcj, hdj, h.2.2⟩, fun h => ⟨hci, hdi, h.2.2⟩⟩

/-- Two cues of one priority, with a claim and an arrival of a higher priority between two points at
which both are pending. -/
theorem stable_view_of_two_points :
    let calls : List Call :=
      [.insert ⟨"a"⟩ ⟨0⟩ (.clamped 50) [], .insert ⟨"b"⟩ ⟨0⟩ (.clamped 80) [],
        .insert ⟨"c"⟩ ⟨0⟩ (.clamped 50) [], .claim, .insert ⟨"d"⟩ ⟨0⟩ (.clamped 60) []]
    arrivals calls < 2 ^ 64 - 1 ∧ FreshIds calls ∧
      ∃ c d, c.id = ⟨"a"⟩ ∧ d.id = ⟨"c"⟩ ∧ (queueAt calls 3).ListedBefore c d ∧
        (queueAt calls 5).ListedBefore c d ∧
        ∀ c' ∈ (queueAt calls 5).snapshot, c'.id = c.id → c = c' := by
  intro calls
  have few : arrivals calls < 2 ^ 64 - 1 := by decide
  have fresh : FreshIds calls := by
    have hids : calls.filterMap Call.id? = [⟨"a"⟩, ⟨"b"⟩, ⟨"c"⟩, ⟨"d"⟩] := rfl
    rw [FreshIds, hids]
    decide
  let a := (queueAt calls 0).arrival ⟨"a"⟩ ⟨0⟩ (.clamped 50) []
  let b := (queueAt calls 1).arrival ⟨"b"⟩ ⟨0⟩ (.clamped 80) []
  let c := (queueAt calls 2).arrival ⟨"c"⟩ ⟨0⟩ (.clamped 50) []
  let d := (queueAt calls 4).arrival ⟨"d"⟩ ⟨0⟩ (.clamped 60) []
  have hearly : (queueAt calls 3).snapshot = [b, a, c] := rfl
  have hlate : (queueAt calls 5).snapshot = [d, a, c] := rfl
  have hlisted : (queueAt calls 3).ListedBefore a c := by
    rw [ListedBefore, hearly]
    exact List.sublist_cons_self b [a, c]
  obtain ⟨hsame, horder, -⟩ := stable_view calls few
  refine ⟨few, fresh, a, c, rfl, rfl, hlisted, ?_, ?_⟩
  · exact (horder 3 5 a c (by simp [hearly]) (by simp [hlate]) (by simp [hearly])
      (by simp [hlate])).mp hlisted
  · intro c' hc' hid
    exact hsame 3 5 a (by simp [hearly]) c' hc' (Or.inr ⟨fresh, hid.symm⟩)

end ShowControl.Registry
