/-
Numbers that a double holds as they are.

A representable step count lies on the grid that rounding goes to, so rounding does not move it
(`nearestSteps_mul_right`).  Whole numbers of up to 53 bits are representable, so they come through
a double unchanged, whether they are truncated or rounded on the way out.
-/
import Mathlib.Data.Int.Notation
import Mathlib.Data.Nat.Notation
import Mathlib.Tactic.Lemma
import ShowControl.Number.Binary64

namespace ShowControl.Number

/-- A representable number of steps, written as a quotient, is its own nearest number of steps. -/
lemma nearestSteps_mul_right {n den : ℕ} (h : Representable n) (hden : 0 < den) :
    nearestSteps (n * den) den = n := by
  obtain ⟨q, hq⟩ := h.2
  have hquot : n * den / den = n := Nat.mul_div_cancel n hden
  have hnum : n * den = q * (den * gap n) :=
    calc n * den = gap n * q * den := by rw [← hq]
      _ = q * (den * gap n) := by rw [Nat.mul_comm (gap n) q, Nat.mul_assoc, Nat.mul_comm den]
  have hround : roundHalfEven (n * den) (den * gap n) = q := by
    rw [hnum]
    exact roundHalfEven_mul_right (Nat.mul_pos hden (gap_pos n)) q
  rw [nearestSteps, hquot]
  rw [hround, Nat.mul_comm, ← hq]

/-- So it is held as it is. -/
lemma nearest_mul_right (negative : Bool) {n den : ℕ} (h : Representable n) (hden : 0 < den) :
    nearest negative (n * den) den = .finite ⟨negative, n, h⟩ := by
  have hsteps := nearestSteps_mul_right h hden
  have hlt : nearestSteps (n * den) den < beyond := by
    rw [hsteps]
    exact h.1
  rw [nearest, dif_pos hlt]
  simp only [hsteps]

namespace Binary64

variable {n : ℕ} (h : n < 2 ^ 53)

lemma truncate_ofNat : (ofNat n h).truncate = n := by
  have hquot : (ofNat n h).steps / one = n := Nat.mul_div_cancel n one_pos
  rw [truncate, hquot]
  rfl

lemma wholeMagnitude_ofNat : (ofNat n h).wholeMagnitude = n := by
  have hone := one_pos
  have hnum : 2 * (n * one) + one = one + n * (2 * one) := by
    rw [Nat.mul_left_comm, Nat.add_comm]
  calc (ofNat n h).wholeMagnitude = (2 * (n * one) + one) / (2 * one) := rfl
    _ = one / (2 * one) + n := by rw [hnum, Nat.add_mul_div_right _ _ (by omega)]
    _ = n := by rw [Nat.div_eq_of_lt (by omega), Nat.zero_add]

end Binary64

/-- Whole numbers of up to 53 bits are held as they are. -/
lemma ofInt_natCast {n : ℕ} (h : n < 2 ^ 53) : ofInt n = .finite (.ofNat n h) := by
  have hnearest := nearest_mul_right false (Binary64.representable_mul_one h) Nat.one_pos
  rw [Nat.mul_one] at hnearest
  have hsign : decide ((n : ℤ) < 0) = false := decide_eq_false (by omega)
  rw [ofInt, hsign, Int.natAbs_natCast, hnearest]
  rfl

/-- A signed 64-bit word is moved nowhere. -/
lemma saturate_of_mem {i : ℤ} (hlo : -(2 ^ 63) ≤ i) (hhi : i < 2 ^ 63) : saturate i = i := by
  unfold saturate
  omega

end ShowControl.Number
