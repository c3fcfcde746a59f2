/-
The order of the pending cues.

`OrderKey.Before` says in words what `OrderKey.order` decides: a higher priority goes first, and
within a priority the lower sequence.  It is a strict linear order.  When the entries stand in this
order and a key is not among them, `place` cuts them in two, before and after the key, and puts the
new entry between the two parts (`Registry.place_split`); nothing else about the entries changes.
-/
import Mathlib.Data.List.Basic
import Mathlib.Tactic.Lemma
import ShowControl.Cue.Registry

namespace ShowControl

lemma Priority.eq_of_value_eq {p q : Priority} (h : p.value = q.value) : p = q := by
  cases p
  cases q
  simpa using h

namespace OrderKey

/-- One key goes before another: its priority is higher, or it is the same and the sequence is
lower. -/
def Before (a b : OrderKey) : Prop :=
  b.priority.value < a.priority.value ∨
    a.priority.value = b.priority.value ∧ a.sequence < b.sequence

variable {a b c : OrderKey}

lemma Before.irrefl (a : OrderKey) : ¬ a.Before a := by
  rintro (h | ⟨-, h⟩)
  · exact absurd h (Nat.lt_irrefl _)
  · exact absurd h (UInt64.lt_irrefl _)

lemma Before.trans (h₁ : a.Before b) (h₂ : b.Before c) : a.Before c := by
  rcases h₁ with h₁ | ⟨h₁, h₁'⟩ <;> rcases h₂ with h₂ | ⟨h₂, h₂'⟩
  · exact Or.inl (by omega)
  · exact Or.inl (by omega)
  · exact Or.inl (by omega)
  · exact Or.inr ⟨h₁.trans h₂, UInt64.lt_trans h₁' h₂'⟩

lemma Before.asymm (h : a.Before b) : ¬ b.Before a :=
  fun h' => Before.irrefl a (h.trans h')

/-! ### The comparison decides the order -/

lemma order_eq_lt_iff : a.order b = .lt ↔ a.Before b := by
  rw [order, Ordering.then_eq_lt, Nat.compare_eq_lt, Nat.compare_eq_eq,
    Std.compare_eq_lt, Before, eq_comm (a := b.priority.value)]

lemma order_eq_eq_iff : a.order b = .eq ↔ a = b := by
  rw [order, Ordering.then_eq_eq, Nat.compare_eq_eq, Std.compare_eq_iff_eq]
  constructor
  · rintro ⟨hp, hs⟩
    cases a
    cases b
    simp only [OrderKey.mk.injEq]
    exact ⟨Priority.eq_of_value_eq hp.symm, hs⟩
  · rintro rfl
    exact ⟨rfl, rfl⟩

lemma order_eq_gt_iff : a.order b = .gt ↔ b.Before a := by
  rw [order, Ordering.then_eq_gt, Nat.compare_eq_gt, Nat.compare_eq_eq,
    Std.compare_eq_gt, Before, eq_comm (a := b.priority.value)]

end OrderKey

namespace Registry

/-! ### Placing an entry -/

variable {key : OrderKey} {entries : List (OrderKey × Cue)}

/-- The entries stand in the order of their keys. -/
def InOrder (entries : List (OrderKey × Cue)) : Prop :=
  entries.Pairwise fun a b => a.1.Before b.1

/-- Placing adds at most one entry. -/
lemma length_place_le (key : OrderKey) (cue : Cue) (entries : List (OrderKey × Cue)) :
    (place key cue entries).length ≤ entries.length + 1 := by
  induction entries with
  | nil => exact Nat.le_refl _
  | cons entry rest ih =>
    rw [place]
    split
    · exact Nat.le_refl _
    · exact Nat.le_succ _
    · exact Nat.succ_le_succ ih

/-- A new entry is put between the entries that go before it and those that go after it. -/
lemma place_split (cue : Cue) (hord : InOrder entries) (hfresh : ∀ e ∈ entries, e.1 ≠ key) :
    ∃ front back, entries = front ++ back ∧ place key cue entries = front ++ (key, cue) :: back ∧
      (∀ e ∈ front, e.1.Before key) ∧ ∀ e ∈ back, key.Before e.1 := by
  induction entries with
  | nil => exact ⟨[], [], rfl, rfl, by simp, by simp⟩
  | cons entry rest ih =>
    obtain ⟨hhead, htail⟩ := List.pairwise_cons.mp hord
    rcases ho : key.order entry.1 with _ | _ | _
    · -- the new entry goes in front of all that is there
      have hbefore := OrderKey.order_eq_lt_iff.mp ho
      refine ⟨[], entry :: rest, rfl, by simp [place, ho], by simp, ?_⟩
      intro e he
      rcases List.mem_cons.mp he with rfl | he
      · exact hbefore
      · exact hbefore.trans (hhead e he)
    · -- an entry of the same key would give way, but there is none
      exact absurd (OrderKey.order_eq_eq_iff.mp ho).symm (hfresh entry List.mem_cons_self)
    · have hbefore := OrderKey.order_eq_gt_iff.mp ho
      obtain ⟨front, back, hsplit, hplace, hfront, hback⟩ :=
        ih htail fun e he => hfresh e (List.mem_cons_of_mem _ he)
      refine ⟨entry :: front, back, by rw [hsplit, List.cons_append], ?_, ?_, hback⟩
      · simp [place, ho, hplace]
      · intro e he
        rcases List.mem_cons.mp he with rfl | he
        · exact hbefore
        · exact hfront e he

/-- Placing keeps the order. -/
lemma inOrder_place (cue : Cue) (hord : InOrder entries) (hfresh : ∀ e ∈ entries, e.1 ≠ key) :
    InOrder (place key cue entries) := by
  obtain ⟨front, back, rfl, hplace, hfront, hback⟩ := place_split cue hord hfresh
  obtain ⟨hof, hob, hfb⟩ := List.pairwise_append.mp hord
  rw [hplace]
  refine List.pairwise_append.mpr ⟨hof, List.pairwise_cons.mpr ⟨hback, hob⟩, ?_⟩
  intro e he e' he'
  rcases List.mem_cons.mp he' with rfl | he'
  · exact hfront e he
  · exact hfb e he e' he'

/-- Placing adds one entry and loses none. -/
lemma perm_place (cue : Cue) (hord : InOrder entries) (hfresh : ∀ e ∈ entries, e.1 ≠ key) :
    (place key cue entries).Perm ((key, cue) :: entries) := by
  obtain ⟨front, back, rfl, hplace, -, -⟩ := place_split cue hord hfresh
  rw [hplace]
  exact List.perm_middle

end Registry

end ShowControl
