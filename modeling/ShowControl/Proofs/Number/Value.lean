/-
The exact value of a double.

A finite double is a whole number of steps of 2^-1074, so it has an exact value among the rational
numbers (`Binary64.value`).  Truncating a double is truncating its value toward zero
(`Binary64.truncate_eq`), and its whole magnitude with its sign is its value rounded, a half going
away from zero (`Binary64.signed_wholeMagnitude`).  Both ways of making a number whole keep the
order.
-/
import Mathlib.Data.Rat.Floor
import Mathlib.Tactic.FieldSimp
import Mathlib.Tactic.Lemma
import Mathlib.Tactic.Linarith
import Mathlib.Tactic.Positivity
import ShowControl.Number.Binary64

namespace ShowControl.Number

/-- A number truncated toward zero. -/
def towardZero (q : ℚ) : ℤ := if 0 ≤ q then ⌊q⌋ else ⌈q⌉

/-- A number rounded to a whole one, a half going away from zero. -/
def halfAway (q : ℚ) : ℤ := if 0 ≤ q then ⌊q + 1 / 2⌋ else ⌈q - 1 / 2⌉

@[simp] lemma towardZero_intCast (i : ℤ) : towardZero i = i := by
  simp [towardZero]

/-- What is truncated above zero is truncated alike below it. -/
lemma towardZero_neg (q : ℚ) : towardZero (-q) = -towardZero q := by
  unfold towardZero
  rcases lt_trichotomy q 0 with hneg | rfl | hpos
  · rw [if_pos (by linarith), if_neg (by linarith), Int.floor_neg]
  · simp
  · rw [if_neg (by linarith), if_pos (by linarith), Int.ceil_neg]

lemma halfAway_neg (q : ℚ) : halfAway (-q) = -halfAway q := by
  unfold halfAway
  rcases lt_trichotomy q 0 with hneg | rfl | hpos
  · rw [if_pos (by linarith), if_neg (by linarith), ← Int.floor_neg, neg_sub, sub_eq_neg_add,
      add_comm]
  · norm_num
  · rw [if_neg (by linarith), if_pos (by linarith), ← Int.ceil_neg, neg_add']

lemma towardZero_mono {q r : ℚ} (h : q ≤ r) : towardZero q ≤ towardZero r := by
  unfold towardZero
  by_cases hq : 0 ≤ q
  · rw [if_pos hq, if_pos (hq.trans h)]
    exact Int.floor_le_floor h
  · rw [if_neg hq]
    split
    · -- zero lies between the two
      rename_i hr
      exact (Int.ceil_nonpos.mpr (by linarith)).trans (Int.floor_nonneg.mpr hr)
    · exact Int.ceil_le_ceil h

lemma halfAway_mono {q r : ℚ} (h : q ≤ r) : halfAway q ≤ halfAway r := by
  unfold halfAway
  by_cases hq : 0 ≤ q
  · rw [if_pos hq, if_pos (hq.trans h)]
    exact Int.floor_le_floor (by linarith)
  · rw [if_neg hq]
    split
    · rename_i hr
      exact (Int.ceil_nonpos.mpr (by linarith)).trans (Int.floor_nonneg.mpr (by linarith))
    · exact Int.ceil_le_ceil (by linarith)

/-- The quotient of whole numbers is the truncated one of the rational numbers. -/
lemma towardZero_natCast_div (n d : ℕ) : towardZero ((n : ℚ) / d) = (n / d : ℕ) := by
  have hnonneg : (0 : ℚ) ≤ (n : ℚ) / d := by positivity
  rw [towardZero, if_pos hnonneg, Rat.floor_natCast_div_natCast, Int.natCast_div]

/-- Rounding a quotient with a half going up is rounding the rational number. -/
lemma halfAway_natCast_div (n : ℕ) {d : ℕ} (hd : 0 < d) :
    halfAway ((n : ℚ) / d) = (roundHalfUp n d : ℕ) := by
  have hnonneg : (0 : ℚ) ≤ (n : ℚ) / d := by positivity
  have hd' : (d : ℚ) ≠ 0 := by positivity
  have hquot : (n : ℚ) / d + 1 / 2 = ((2 * n + d : ℕ) : ℚ) / ((2 * d : ℕ) : ℚ) := by
    push_cast
    field_simp
  rw [halfAway, if_pos hnonneg, hquot, Rat.floor_natCast_div_natCast, roundHalfUp, Int.natCast_div]

lemma Extended.finite?_eq_some {e : Extended} {x : Binary64} :
    e.finite? = some x ↔ e = .finite x := by
  cases e <;> simp [finite?]

namespace Binary64

/-- The value of a double. -/
def value (x : Binary64) : ℚ := x.signedSteps / one

lemma value_of_negative {x : Binary64} (h : x.negative = true) :
    x.value = -((x.steps : ℚ) / one) := by
  rw [value, signedSteps, if_pos h]
  push_cast
  rw [neg_div]

lemma value_of_not_negative {x : Binary64} (h : x.negative = false) :
    x.value = (x.steps : ℚ) / one := by
  rw [value, signedSteps, if_neg (by simp [h])]
  push_cast
  rfl

lemma value_nonneg {x : Binary64} (h : x.negative = false) : 0 ≤ x.value := by
  rw [value_of_not_negative h]
  positivity

lemma value_nonpos {x : Binary64} (h : x.negative = true) : x.value ≤ 0 := by
  rw [value_of_negative h, neg_nonpos]
  positivity

lemma abs_value (x : Binary64) : |x.value| = x.steps / one := by
  have hnonneg : (0 : ℚ) ≤ x.steps / one := by positivity
  cases h : x.negative with
  | true => rw [value_of_negative h, abs_neg, abs_of_nonneg hnonneg]
  | false => rw [value_of_not_negative h, abs_of_nonneg hnonneg]

/-- A double that goes `d` times into a whole number has the quotient for its value. -/
lemma value_eq_div {x : Binary64} {n d : ℕ} (hsign : x.negative = false) (hd : 0 < d)
    (h : x.steps * d = n * one) : x.value = n / d := by
  have hone : (one : ℚ) ≠ 0 := by exact_mod_cast one_pos.ne'
  have hd' : (d : ℚ) ≠ 0 := by exact_mod_cast hd.ne'
  rw [value_of_not_negative hsign, div_eq_div_iff hone hd']
  exact_mod_cast h

lemma value_ofNat {n : ℕ} (h : n < 2 ^ 53) : (ofNat n h).value = n := by
  rw [value_eq_div rfl Nat.one_pos (Nat.mul_one _), Nat.cast_one, div_one]

/-- A double that is moved into the range from 0 to 1 has the value that is moved there. -/
lemma value_clampUnit (x : Binary64) : x.clampUnit.value = max 0 (min x.value 1) := by
  have hpos : (0 : ℚ) < one := by exact_mod_cast one_pos
  unfold clampUnit
  split
  case isTrue hlow =>
    have hvalue : x.value < 0 := div_neg_of_neg_of_pos (by exact_mod_cast hlow) hpos
    have hzero : zero.value = 0 := by simp [value, signedSteps, zero]
    rw [hzero, min_eq_left (by linarith), max_eq_left hvalue.le]
  case isFalse hlow =>
    -- what is not below zero is its magnitude
    have hsigned : x.signedSteps = x.steps := by
      unfold signedSteps at hlow ⊢
      split
      case isTrue hnegative =>
        rw [if_pos hnegative] at hlow
        omega
      case isFalse => rfl
    have hvalue : x.value = x.steps / one := by rw [value, hsigned, Int.cast_natCast]
    have hnonneg : 0 ≤ x.value := by
      rw [hvalue]
      positivity
    split
    case isTrue hhigh =>
      have hone : 1 ≤ x.value := by
        rw [hvalue, one_le_div hpos]
        exact_mod_cast hhigh.le
      rw [value_ofNat, min_eq_right hone, max_eq_right (by norm_num), Nat.cast_one]
    case isFalse hhigh =>
      have hone : x.value ≤ 1 := by
        rw [hvalue, div_le_one hpos]
        exact_mod_cast Nat.le_of_not_lt hhigh
      rw [min_eq_left hone, max_eq_right hnonneg]

/-- Truncating a double is truncating its value. -/
lemma truncate_eq (x : Binary64) : x.truncate = towardZero x.value := by
  rw [truncate]
  cases h : x.negative with
  | true => rw [value_of_negative h, towardZero_neg, towardZero_natCast_div, if_pos rfl]
  | false => rw [value_of_not_negative h, towardZero_natCast_div, if_neg (by simp)]

/-- The whole magnitude, with the sign, is the rounded value. -/
lemma signed_wholeMagnitude (x : Binary64) :
    (if x.negative then -(x.wholeMagnitude : ℤ) else x.wholeMagnitude) = halfAway x.value := by
  cases h : x.negative with
  | true =>
    rw [value_of_negative h, halfAway_neg, halfAway_natCast_div _ one_pos, if_pos rfl]
    rfl
  | false =>
    rw [value_of_not_negative h, halfAway_natCast_div _ one_pos, if_neg (by simp)]
    rfl

end Binary64

end ShowControl.Number
