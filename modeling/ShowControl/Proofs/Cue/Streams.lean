/-
Streams of one priority.

Cues that several callers bring in reach the queue in some order.  Those of one priority form a
stream, and the order matters within each stream only: two runs of arrivals with the same streams
fill the queue alike, up to ids, numbers and timestamps, and the claims that follow hand out the
same (`Offer.filled_alike`).

The snapshot is sorted by priority, and its part of one priority is the stream of that priority
(`Offer.filter_snapshot`).  A list that is sorted by priority is determined by its streams
(`eq_of_streams`).
-/
import ShowControl.Proofs.Cue.ArrivalList

namespace ShowControl

/-- What a caller decides of a cue: its priority and its payload. -/
def Cue.matter (c : Cue) : Priority × Fields := (c.priority, c.payload)

/-- A cue that is brought in, before it has a number. -/
structure Offer where
  id : CueId
  now : Instant
  priority : Priority
  payload : Fields

/-- The head of a list that is sorted by priority has the highest priority. -/
lemma value_le_head {y z : Priority × Fields} {ys : List (Priority × Fields)}
    (hy : (y :: ys).Pairwise fun x y => y.1.value ≤ x.1.value) (hz : z ∈ y :: ys) :
    z.1.value ≤ y.1.value := by
  rcases List.mem_cons.mp hz with rfl | hz
  · exact Nat.le_refl _
  · exact (List.pairwise_cons.mp hy).1 z hz

/-- A list that is sorted by priority is determined by its parts of one priority. -/
lemma eq_of_streams {xs ys : List (Priority × Fields)}
    (hx : xs.Pairwise fun x y => y.1.value ≤ x.1.value)
    (hy : ys.Pairwise fun x y => y.1.value ≤ x.1.value)
    (h : ∀ p, xs.filter (fun x => x.1 = p) = ys.filter (fun x => x.1 = p)) : xs = ys := by
  induction xs generalizing ys with
  | nil =>
    cases ys with
    | nil => rfl
    | cons y ys =>
      have hnil := h y.1
      simp at hnil
  | cons x xs ih =>
    cases ys with
    | nil =>
      have hnil := h x.1
      simp at hnil
    | cons y ys =>
      -- each head is in the other list, so the two have one priority
      have hmem : ∀ z, z ∈ x :: xs ↔ z ∈ y :: ys := by
        intro z
        have hz := congrArg (fun l => z ∈ l) (h z.1)
        simpa only [List.mem_filter, decide_true, and_true, eq_iff_iff] using hz
      have hxy : x.1.value ≤ y.1.value := value_le_head hy ((hmem x).mp List.mem_cons_self)
      have hyx : y.1.value ≤ x.1.value := value_le_head hx ((hmem y).mpr List.mem_cons_self)
      have hprio : x.1 = y.1 := Priority.eq_of_value_eq (Nat.le_antisymm hxy hyx)
      have hhead := h x.1
      rw [List.filter_cons_of_pos (by simp), List.filter_cons_of_pos (by simp [hprio]),
        List.cons.injEq] at hhead
      obtain ⟨rfl, -⟩ := hhead
      congr 1
      refine ih (List.pairwise_cons.mp hx).2 (List.pairwise_cons.mp hy).2 ?_
      intro p
      have hp := h p
      simp only [List.filter_cons] at hp
      split at hp
      · exact (List.cons.inj hp).2
      · exact hp

namespace Offer

/-- The call that brings in the cue. -/
def call (o : Offer) : Registry.Call := .insert o.id o.now o.priority o.payload

/-- What the caller decides of the cue. -/
def matter (o : Offer) : Priority × Fields := (o.priority, o.payload)

/-- The cues of one priority, as they are brought in. -/
def stream (offers : List Offer) (p : Priority) : List (Priority × Fields) :=
  (offers.map matter).filter fun x => x.1 = p

/-- The queue when all cues have come in and some claims have been made. -/
def filled (offers : List Offer) (claims : ℕ) : Registry :=
  Registry.after (offers.map call ++ List.replicate claims .claim)

variable {offers others : List Offer}

lemma arrivals_call (offers : List Offer) :
    Registry.arrivals (offers.map call) = offers.length := by
  rw [Registry.arrivals, List.countP_eq_length.mpr, List.length_map]
  simp [call, Registry.Call.isInsert]

/-- Offers with the same streams are the same in another order. -/
lemma perm_of_stream_eq (h : ∀ p, stream offers p = stream others p) :
    (offers.map matter).Perm (others.map matter) := by
  classical
  rw [List.perm_iff_count]
  intro x
  have hcount : ∀ offers : List Offer,
      (offers.map matter).count x = (stream offers x.1).count x := by
    intro offers
    rw [stream, List.count_filter (by simp)]
  rw [hcount, hcount, h]

/-! ### The queue when all cues have come in -/

/-- The list of arrivals has the cues as they were brought in. -/
lemma matter_arrived (offers : List Offer) :
    (ArrivalList.after (offers.map call)).cues.map Cue.matter = offers.map matter := by
  induction offers using List.reverseRecOn with
  | nil => rfl
  | append_singleton offers o ih =>
    rw [List.map_append, List.map_append, ← ih, ArrivalList.after, List.map_singleton,
      Run.after_concat]
    simp only [call, ArrivalList.perform, ArrivalList.insert, List.map_append, List.map_singleton]
    rfl

/-- The snapshot is the list of arrivals sorted by priority. -/
lemma snapshot_filled_zero (few : offers.length < 2 ^ 64 - 1) :
    (filled offers 0).snapshot = (ArrivalList.after (offers.map call)).sorted := by
  rw [filled, List.replicate_zero, List.append_nil]
  exact (ArrivalList.holds_after (by rwa [arrivals_call])).1.sorted_eq.symm

lemma sorted_snapshot (few : offers.length < 2 ^ 64 - 1) :
    ((filled offers 0).snapshot.map Cue.matter).Pairwise fun x y => y.1.value ≤ x.1.value := by
  rw [snapshot_filled_zero few, List.pairwise_map]
  refine (ArrivalList.sorted_outranks _).imp ?_
  intro c d hcd
  simpa [ArrivalList.outranks, Cue.matter] using hcd

/-- The part of the snapshot of one priority is the stream of that priority. -/
lemma filter_snapshot (few : offers.length < 2 ^ 64 - 1) (p : Priority) :
    ((filled offers 0).snapshot.map Cue.matter).filter (fun x => x.1 = p) = stream offers p := by
  have hvalue : ∀ cues : List Cue, (cues.map Cue.matter).filter (fun x => x.1 = p) =
      (cues.filter fun c => c.priority.value = p.value).map Cue.matter := by
    intro cues
    rw [List.filter_map]
    congr 2
    funext c
    exact decide_eq_decide.mpr ⟨congrArg Priority.value, Priority.eq_of_value_eq⟩
  rw [snapshot_filled_zero few, hvalue, ArrivalList.filter_sorted, ← hvalue, matter_arrived, stream]

/-- Claims take the first cues away, one by one. -/
lemma snapshot_filled (offers : List Offer) (claims : ℕ) :
    (filled offers claims).snapshot = (filled offers 0).snapshot.drop claims := by
  induction claims with
  | zero => rfl
  | succ claims ih =>
    have hstep : filled offers (claims + 1) = (filled offers claims).claim.2 := by
      rw [filled, List.replicate_succ', ← List.append_assoc, Registry.after_concat]
      rfl
    rw [hstep, Registry.snapshot_claim, ih, List.tail_drop]

/-- **The order of arrival matters within a priority only.**  Let two lists of fewer than 2^64 - 1
cues have the same streams; then one is the other in an order that leaves the cues of each priority
as they were (`perm_of_stream_eq`).  Up to ids, numbers and timestamps they fill the queue alike:
after any number of claims the snapshots have the same priorities and payloads place by place, and
so does what the next claim hands out. -/
theorem filled_alike (offers others : List Offer) (few : offers.length < 2 ^ 64 - 1)
    (same : ∀ p, stream offers p = stream others p) (claims : ℕ) :
    (filled offers claims).snapshot.map Cue.matter =
        (filled others claims).snapshot.map Cue.matter ∧
      (filled offers claims).claim.1.map Cue.matter =
        (filled others claims).claim.1.map Cue.matter := by
  have hlength : offers.length = others.length := by
    simpa using (perm_of_stream_eq same).length_eq
  have few' : others.length < 2 ^ 64 - 1 := hlength ▸ few
  have hfull : (filled offers 0).snapshot.map Cue.matter =
      (filled others 0).snapshot.map Cue.matter := by
    refine eq_of_streams (sorted_snapshot few) (sorted_snapshot few') ?_
    intro p
    rw [filter_snapshot few, filter_snapshot few', same]
  have hsnap : (filled offers claims).snapshot.map Cue.matter =
      (filled others claims).snapshot.map Cue.matter := by
    rw [snapshot_filled offers, snapshot_filled others, List.map_drop, List.map_drop, hfull]
  refine ⟨hsnap, ?_⟩
  rw [Registry.fst_claim, Registry.fst_claim, ← List.head?_map, ← List.head?_map, hsnap]

/-- Cues of two priorities, brought in one priority after the other and by turns, with other ids and
at other times. -/
theorem filled_alike_of_two_turns :
    let p : Priority := .clamped 10
    let q : Priority := .clamped 90
    let a : Fields := [("tag", .string "a")]
    let b : Fields := [("tag", .string "b")]
    let offers : List Offer :=
      [⟨⟨"1"⟩, ⟨0⟩, p, a⟩, ⟨⟨"2"⟩, ⟨0⟩, p, b⟩, ⟨⟨"3"⟩, ⟨0⟩, q, b⟩, ⟨⟨"4"⟩, ⟨0⟩, q, a⟩]
    let others : List Offer :=
      [⟨⟨"5"⟩, ⟨9⟩, q, b⟩, ⟨⟨"6"⟩, ⟨8⟩, p, a⟩, ⟨⟨"7"⟩, ⟨7⟩, q, a⟩, ⟨⟨"8"⟩, ⟨6⟩, p, b⟩]
    offers.length < 2 ^ 64 - 1 ∧ (∀ r, stream offers r = stream others r) ∧
      (filled offers 3).claim.1.map Cue.matter = some (p, b) ∧
      (filled others 3).claim.1.map Cue.matter = some (p, b) := by
  intro p q a b offers others
  have few : offers.length < 2 ^ 64 - 1 := by decide
  have same : ∀ r, stream offers r = stream others r := by
    intro r
    by_cases hp : p = r
    · subst hp
      rfl
    · by_cases hq : q = r
      · subst hq
        rfl
      · simp [stream, offers, others, matter, hp, hq]
  have hoffers : (filled offers 3).claim.1.map Cue.matter = some (p, b) := rfl
  exact ⟨few, same, hoffers, (filled_alike offers others few same 3).2 ▸ hoffers⟩

end Offer

end ShowControl
