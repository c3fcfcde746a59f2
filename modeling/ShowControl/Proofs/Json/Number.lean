/-
The exact values of JSON numbers.

A whole number of a document keeps its value, and so does a double (`JsonNumber.value`).  A reader
that wants a double rounds a whole number to the nearest one, which is always finite
(`JsonNumber.exists_nearest`).  Rounding does not lead past a whole number of at most 53 bits, so
below that the double, truncated toward zero, is the number truncated toward zero.
-/
import ShowControl.Json.Value
import ShowControl.Proofs.Number.Order
import ShowControl.Proofs.Number.Value

namespace ShowControl

/-- The value of a number, exactly. -/
def JsonNumber.value : JsonNumber → ℚ
  | .whole i _ => i
  | .double x => x.value

namespace Number

/-- The double nearest to a word is in range. -/
lemma nearestSteps_word_lt {n : ℕ} (h : n ≤ 2 ^ 64) : nearestSteps (n * one) 1 < beyond := by
  rw [one_eq, beyond_eq]
  exact nearestSteps_mul_two_pow_lt (e := 1074) (f := 2098) h (by omega)

/-- A word is rounded to a finite double, and not past a whole number of at most 53 bits. -/
lemma exists_ofInt {i : ℤ} (hword : IsWord i) :
    ∃ x, ofInt i = .finite x ∧ ∀ k : ℕ, k < 2 ^ 53 →
      (i ≤ k → x.truncate ≤ k) ∧ (k ≤ i → k ≤ x.truncate) := by
  have habs : i.natAbs ≤ 2 ^ 64 := by
    obtain ⟨hlo, hhi⟩ := hword
    omega
  refine ⟨_, dif_pos (nearestSteps_word_lt habs), ?_⟩
  intro k hk
  have hgrid : gap (k * one) ∣ k * one := (Binary64.representable_mul_one hk).2
  rw [Binary64.truncate]
  by_cases hneg : i < 0
  · -- below zero there is no bound from below by a natural number
    simp only [hneg, decide_true, if_true]
    refine ⟨fun _ => ?_, fun hle => absurd hle (by omega)⟩
    exact (Int.neg_nonpos_of_nonneg (Int.natCast_nonneg _)).trans (Int.natCast_nonneg k)
  · simp only [hneg, decide_false, Bool.false_eq_true, if_false, Int.ofNat_le]
    constructor
    · intro hle
      have hnum : i.natAbs * one ≤ k * one * 1 := by
        rw [Nat.mul_one]
        exact Nat.mul_le_mul_right _ (by omega)
      exact Nat.div_le_of_le_mul ((nearestSteps_le Nat.one_pos hgrid hnum).trans_eq
        (Nat.mul_comm k one))
    · intro hle
      have hnum : k * one * 1 ≤ i.natAbs * one := by
        rw [Nat.mul_one]
        exact Nat.mul_le_mul_right _ (by omega)
      exact (Nat.le_div_iff_mul_le one_pos).mpr (le_nearestSteps Nat.one_pos hgrid hnum)

end Number

/-- A number is read as a finite double, which truncated lies on the same side of every whole number
of at most 53 bits. -/
lemma JsonNumber.exists_nearest (n : JsonNumber) :
    ∃ x, n.nearest = .finite x ∧ ∀ k : ℕ, k < 2 ^ 53 →
      (Number.towardZero n.value ≤ k → x.truncate ≤ k) ∧
        (k ≤ Number.towardZero n.value → k ≤ x.truncate) := by
  cases n with
  | whole i hword =>
    obtain ⟨x, hx, hsides⟩ := Number.exists_ofInt hword
    refine ⟨x, hx, ?_⟩
    rwa [value, Number.towardZero_intCast]
  | double x =>
    refine ⟨x, rfl, ?_⟩
    intro k hk
    rw [value, x.truncate_eq]
    exact ⟨id, id⟩

end ShowControl
