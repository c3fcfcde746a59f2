/-
Rounding keeps the order.

A number that lies on the grid is not passed by rounding anything that lies below it, nor by
rounding anything that lies above it.  On the grid of doubles that holds across all gaps, since a
wider gap is a multiple of a narrower one (`nearestSteps_le`), and between two gaps there is a power
of two that lies on both grids (`le_nearestSteps`).
-/
import Mathlib.Data.Nat.Notation
import Mathlib.Data.Nat.Log
import Mathlib.Tactic.Lemma
import ShowControl.Number.Binary64

namespace ShowControl.Number

/-- What is not above a whole number is not rounded above it. -/
lemma roundHalfEven_le {num den k : ℕ} (hden : 0 < den) (h : num ≤ k * den) :
    roundHalfEven num den ≤ k := by
  have hquot : num / den ≤ k := Nat.div_le_of_le_mul (by rwa [Nat.mul_comm])
  rcases Nat.lt_or_eq_of_le hquot with hlt | heq
  · exact Nat.le_trans (roundHalfEven_le_succ num den) hlt
  · -- the quotient is whole, so there is nothing to round
    have hnum : num = k * den :=
      Nat.le_antisymm h (by rw [← heq]; exact Nat.div_mul_le_self num den)
    rw [hnum, roundHalfEven_mul_right hden]

lemma roundHalfUp_le {num den k : ℕ} (hden : 0 < den) (h : num ≤ k * den) :
    roundHalfUp num den ≤ k := by
  have hlt : 2 * num + den < (k + 1) * (2 * den) := by
    have htwice : k * (2 * den) = 2 * (k * den) := Nat.mul_left_comm k 2 den
    rw [Nat.add_mul, Nat.one_mul, htwice]
    omega
  exact Nat.le_of_lt_succ ((Nat.div_lt_iff_lt_mul (by omega)).mpr hlt)

/-- Wider gaps are multiples of narrower ones. -/
lemma gap_dvd_gap {n m : ℕ} (h : n ≤ m) : gap n ∣ gap m := by
  have hlog : n.log2 ≤ m.log2 := by
    rw [Nat.log2_eq_log_two, Nat.log2_eq_log_two]
    exact Nat.log_mono_right h
  exact Nat.pow_dvd_pow 2 (Nat.sub_le_sub_right hlog 52)

/-- What is not above a number of the grid is not rounded above it. -/
lemma nearestSteps_le {num den m : ℕ} (hden : 0 < den) (hm : gap m ∣ m) (h : num ≤ m * den) :
    nearestSteps num den ≤ m := by
  have hquot : num / den ≤ m := Nat.div_le_of_le_mul (by rwa [Nat.mul_comm])
  obtain ⟨k, hk⟩ := Nat.dvd_trans (gap_dvd_gap hquot) hm
  have hnum : num ≤ k * (den * gap (num / den)) :=
    calc num ≤ m * den := h
      _ = k * (den * gap (num / den)) := by rw [hk]; ac_rfl
  calc nearestSteps num den
      = roundHalfEven num (den * gap (num / den)) * gap (num / den) := rfl
    _ ≤ k * gap (num / den) :=
        Nat.mul_le_mul_right _ (roundHalfEven_le (Nat.mul_pos hden (gap_pos _)) hnum)
    _ = m := by rw [hk]; ac_rfl

/-- Powers of two are on the grid. -/
lemma gap_dvd_two_pow (e : ℕ) : gap (2 ^ e) ∣ 2 ^ e := by
  rw [gap, Nat.log2_two_pow]
  exact Nat.pow_dvd_pow 2 (Nat.sub_le e 52)

/-- A number of some bits, times a power of two, is rounded to no more bits. -/
lemma nearestSteps_mul_two_pow_lt {n a e f : ℕ} (h : n ≤ 2 ^ a) (hf : a + e < f) :
    nearestSteps (n * 2 ^ e) 1 < 2 ^ f := by
  have hnum : n * 2 ^ e ≤ 2 ^ (a + e) * 1 := by
    rw [Nat.mul_one, Nat.pow_add]
    exact Nat.mul_le_mul_right _ h
  calc nearestSteps (n * 2 ^ e) 1 ≤ 2 ^ (a + e) :=
        nearestSteps_le Nat.one_pos (gap_dvd_two_pow _) hnum
    _ < 2 ^ f := Nat.pow_lt_pow_right (by omega) hf

/-- What is not below a multiple of its own gap is not rounded below it. -/
lemma le_nearestSteps_of_gap_dvd {num den m : ℕ} (hden : 0 < den) (hm : gap (num / den) ∣ m)
    (h : m * den ≤ num) : m ≤ nearestSteps num den := by
  obtain ⟨k, hk⟩ := hm
  have hquot : k ≤ num / (den * gap (num / den)) := by
    rw [Nat.le_div_iff_mul_le (Nat.mul_pos hden (gap_pos _))]
    calc k * (den * gap (num / den)) = m * den := by rw [hk]; ac_rfl
      _ ≤ num := h
  calc m = k * gap (num / den) := by rw [hk, Nat.mul_comm]
    _ ≤ roundHalfEven num (den * gap (num / den)) * gap (num / den) :=
        Nat.mul_le_mul_right _ (Nat.le_trans hquot (div_le_roundHalfEven _ _))
    _ = nearestSteps num den := rfl

/-- What is not below a number of the grid is not rounded below it. -/
lemma le_nearestSteps {num den m : ℕ} (hden : 0 < den) (hm : gap m ∣ m) (h : m * den ≤ num) :
    m ≤ nearestSteps num den := by
  have hquot : m ≤ num / den := (Nat.le_div_iff_mul_le hden).mpr h
  rcases Nat.lt_or_ge m.log2 (num / den).log2 with hlog | hlog
  · -- the power of two at the front of the quotient lies between the two
    have hne : num / den ≠ 0 := by
      intro hzero
      rw [hzero, Nat.log2_zero] at hlog
      omega
    have hpow : 2 ^ (num / den).log2 ≤ num / den := Nat.log2_self_le hne
    have hbelow : m < 2 ^ (num / den).log2 := by
      rcases Nat.eq_zero_or_pos m with rfl | hpos
      · exact Nat.two_pow_pos _
      · exact (Nat.log2_lt (by omega)).mp hlog
    have hgap : gap (num / den) ∣ 2 ^ (num / den).log2 := Nat.pow_dvd_pow 2 (Nat.sub_le _ 52)
    calc m ≤ 2 ^ (num / den).log2 := Nat.le_of_lt hbelow
      _ ≤ nearestSteps num den :=
          le_nearestSteps_of_gap_dvd hden hgap ((Nat.le_div_iff_mul_le hden).mp hpow)
  · -- there is one gap on the whole way
    have hgap : gap (num / den) ∣ gap m := Nat.pow_dvd_pow 2 (Nat.sub_le_sub_right hlog 52)
    exact le_nearestSteps_of_gap_dvd hden (Nat.dvd_trans hgap hm) h

end ShowControl.Number
