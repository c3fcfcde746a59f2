/-
The nearest double.

No double is nearer to a quotient than the one that it is rounded to (`nearestSteps_closest`).  That
goes in particular for the product of two doubles (`Binary64.mul_closest`).

Rounding looks at a quotient and not at the way it is written (`nearest_congr`).  So the double
nearest to a decimal number follows from its sign and its magnitude among the rational numbers
(`Decimal.nearest_congr`): moving the point and making up for it by the power of ten does not
matter.  Very large and very small numbers are not rounded but answered at once, and the answer is
that of rounding (`Decimal.nearest_eq`).
-/
import Mathlib.Tactic.FieldSimp
import Mathlib.Tactic.Ring
import ShowControl.Number.Decimal
import ShowControl.Proofs.Number.Order
import ShowControl.Proofs.Number.Value

namespace ShowControl.Number

/-! ### Nothing is nearer -/

/-- No whole number is nearer to a quotient than the rounded one. -/
lemma roundHalfEven_closest (num : ℕ) {den : ℕ} (hden : 0 < den) (k : ℕ) :
    (((roundHalfEven num den * den : ℕ) : ℤ) - num).natAbs ≤
      (((k * den : ℕ) : ℤ) - num).natAbs := by
  have hsplit : num / den * den + num % den = num := Nat.div_add_mod' num den
  have hmod : num % den < den := Nat.mod_lt _ hden
  unfold roundHalfEven
  generalize num / den = q, num % den = r at hsplit hmod ⊢
  have hnext : (q + 1) * den = q * den + den := Nat.succ_mul q den
  -- the other whole numbers lie beyond the two neighbours
  have hbeyond : k * den ≤ q * den ∨ (q + 1) * den ≤ k * den := by
    rcases Nat.lt_or_ge q k with hlt | hge
    · exact .inr (Nat.mul_le_mul_right _ hlt)
    · exact .inl (Nat.mul_le_mul_right _ hge)
  have hodd : q % 2 = 0 ∨ q % 2 = 1 := Nat.mod_two_eq_zero_or_one q
  dsimp only
  split
  · generalize k * den = m, q * den = n at *
    omega
  · split
    · generalize k * den = m, q * den = n at *
      omega
    · rcases hodd with h | h
      · rw [h, Nat.add_zero]
        generalize k * den = m, q * den = n at *
        omega
      · rw [h, hnext]
        generalize k * den = m, q * den = n at *
        omega

/-- Nothing on the grid of doubles is nearer to a quotient than what it is rounded to. -/
lemma nearestSteps_closest (num : ℕ) {den m : ℕ} (hden : 0 < den) (hm : gap m ∣ m) :
    (((nearestSteps num den * den : ℕ) : ℤ) - num).natAbs ≤ (((m * den : ℕ) : ℤ) - num).natAbs := by
  have hclosest (k : ℕ) : (((nearestSteps num den * den : ℕ) : ℤ) - num).natAbs ≤
      (((k * gap (num / den) * den : ℕ) : ℤ) - num).natAbs := by
    have hround := roundHalfEven_closest num (Nat.mul_pos hden (gap_pos (num / den))) k
    rwa [← Nat.mul_assoc, Nat.mul_right_comm, ← Nat.mul_assoc, Nat.mul_right_comm k] at hround
  by_cases hgap : gap (num / den) ∣ m
  · obtain ⟨k, rfl⟩ := hgap
    rw [Nat.mul_comm (gap _) k]
    exact hclosest k
  · -- then the number is less than the power of two at the front of the quotient
    have hlog : m.log2 < (num / den).log2 := by
      by_contra hle
      exact hgap ((Nat.pow_dvd_pow 2 (Nat.sub_le_sub_right (Nat.le_of_not_lt hle) 52)).trans hm)
    have hne : num / den ≠ 0 := by
      intro hzero
      rw [hzero, Nat.log2_zero] at hlog
      omega
    have hbelow : m * den ≤ 2 ^ (num / den).log2 * den := by
      rcases Nat.eq_zero_or_pos m with rfl | hpos
      · rw [Nat.zero_mul]
        exact Nat.zero_le _
      · exact Nat.mul_le_mul_right _ ((Nat.log2_lt (by omega)).mp hlog).le
    have hfront : 2 ^ (num / den).log2 * den ≤ num :=
      (Nat.le_div_iff_mul_le (by omega)).mp (Nat.log2_self_le hne)
    obtain ⟨k, hk⟩ : gap (num / den) ∣ 2 ^ (num / den).log2 := Nat.pow_dvd_pow 2 (Nat.sub_le _ 52)
    have hpower := hclosest k
    rw [Nat.mul_comm k, ← hk] at hpower
    generalize 2 ^ (num / den).log2 * den = p, nearestSteps num den * den = n, m * den = l at *
    omega

namespace Binary64

/-- The distance of so many steps from a product, as a quotient of whole numbers. -/
lemma steps_sub_product (n num : ℕ) :
    |(n : ℚ) / one - num / (one * one)| =
      ((((n * one : ℕ) : ℤ) - num).natAbs : ℚ) / (one * one) := by
  have hpos : (0 : ℚ) < one := by exact_mod_cast one_pos
  have hquot : (n : ℚ) / one - num / (one * one) = (n * one - num) / (one * one) := by
    field_simp
  rw [hquot, abs_div, abs_of_pos (mul_pos hpos hpos), Nat.cast_natAbs]
  push_cast
  rfl

/-- **Products.**  No double is nearer to the exact product than the product of doubles is. -/
lemma mul_closest {x y z : Binary64} (h : x.mul y = .finite z) (w : Binary64) :
    |z.value - x.value * y.value| ≤ |w.value - x.value * y.value| := by
  have hpos : (0 : ℚ) < one := by exact_mod_cast one_pos
  have hproduct : |x.value * y.value| = ((x.steps * y.steps : ℕ) : ℚ) / (one * one) := by
    rw [abs_mul, abs_value, abs_value, div_mul_div_comm]
    push_cast
    rfl
  obtain ⟨hnegative, hsteps⟩ : z.negative = (x.negative != y.negative) ∧
      z.steps = nearestSteps (x.steps * y.steps) one := by
    rw [mul, nearest] at h
    split at h
    · cases h
      exact ⟨rfl, rfl⟩
    · cases h
  have hsign : (0 ≤ z.value ∧ 0 ≤ x.value * y.value) ∨ (z.value ≤ 0 ∧ x.value * y.value ≤ 0) := by
    cases hx : x.negative <;> cases hy : y.negative <;>
      rw [hx, hy] at hnegative
    case false.false =>
      exact .inl ⟨value_nonneg hnegative, mul_nonneg (value_nonneg hx) (value_nonneg hy)⟩
    case false.true =>
      exact .inr ⟨value_nonpos hnegative,
        mul_nonpos_of_nonneg_of_nonpos (value_nonneg hx) (value_nonpos hy)⟩
    case true.false =>
      exact .inr ⟨value_nonpos hnegative,
        mul_nonpos_of_nonpos_of_nonneg (value_nonpos hx) (value_nonneg hy)⟩
    case true.true =>
      exact .inl ⟨value_nonneg hnegative,
        mul_nonneg_of_nonpos_of_nonpos (value_nonpos hx) (value_nonpos hy)⟩
  -- numbers of one sign differ as their magnitudes do
  have hz : |z.value - x.value * y.value| = |(|z.value| - |x.value * y.value|)| := by
    rcases hsign with ⟨hz, hp⟩ | ⟨hz, hp⟩
    · rw [abs_of_nonneg hz, abs_of_nonneg hp]
    · rw [abs_of_nonpos hz, abs_of_nonpos hp, neg_sub_neg, abs_sub_comm]
  have hclosest := nearestSteps_closest (x.steps * y.steps) one_pos w.representable.2
  calc |z.value - x.value * y.value|
      = |(z.steps : ℚ) / one - ((x.steps * y.steps : ℕ) : ℚ) / (one * one)| := by
        rw [hz, abs_value, hproduct]
    _ ≤ |(w.steps : ℚ) / one - ((x.steps * y.steps : ℕ) : ℚ) / (one * one)| := by
        rw [steps_sub_product, steps_sub_product, hsteps]
        gcongr
    _ = |(|w.value| - |x.value * y.value|)| := by rw [abs_value, hproduct]
    _ ≤ |w.value - x.value * y.value| := abs_abs_sub_abs_le _ _

end Binary64

/-! ### Quotients -/

lemma roundHalfEven_mul_mul {k : ℕ} (hk : 0 < k) (num den : ℕ) :
    roundHalfEven (num * k) (den * k) = roundHalfEven num den := by
  have htwice : 2 * (num % den * k) = 2 * (num % den) * k := (Nat.mul_assoc 2 _ k).symm
  simp only [roundHalfEven, Nat.mul_div_mul_right _ _ hk, Nat.mul_mod_mul_right, htwice,
    Nat.mul_lt_mul_right hk]

lemma nearestSteps_mul_mul {k : ℕ} (hk : 0 < k) (num den : ℕ) :
    nearestSteps (num * k) (den * k) = nearestSteps num den := by
  simp only [nearestSteps, Nat.mul_div_mul_right _ _ hk, Nat.mul_right_comm den k,
    roundHalfEven_mul_mul hk]

/-- Equal quotients are rounded alike. -/
lemma nearestSteps_congr {num den num' den' : ℕ} (hden : 0 < den) (hden' : 0 < den')
    (h : num * den' = num' * den) : nearestSteps num den = nearestSteps num' den' :=
  calc nearestSteps num den = nearestSteps (num * den') (den * den') :=
        (nearestSteps_mul_mul hden' num den).symm
    _ = nearestSteps (num' * den) (den' * den) := by rw [h, Nat.mul_comm den]
    _ = nearestSteps num' den' := nearestSteps_mul_mul hden num' den'

lemma nearest_congr (negative : Bool) {num den num' den' : ℕ} (hden : 0 < den) (hden' : 0 < den')
    (h : num * den' = num' * den) : nearest negative num den = nearest negative num' den' := by
  simp only [nearest, nearestSteps_congr hden hden' h]

/-- Less than half a step is rounded to nothing. -/
lemma nearestSteps_of_two_mul_lt {num den : ℕ} (h : 2 * num < den) : nearestSteps num den = 0 := by
  have hquot : num / den = 0 := Nat.div_eq_of_lt (by omega)
  have hgap : gap 0 = 1 := gap_eq_one (by decide)
  rw [nearestSteps, hquot, hgap]
  simp [roundHalfEven, hquot, Nat.mod_eq_of_lt (show num < den by omega), h]

/-! ### Decimal numbers -/

lemma two_pow_le_ten_pow {m n : ℕ} (h : m ≤ 3 * n) : 2 ^ m ≤ 10 ^ n :=
  calc 2 ^ m ≤ 2 ^ (3 * n) := Nat.pow_le_pow_right (by decide) h
    _ = 8 ^ n := Nat.pow_mul 2 3 n
    _ ≤ 10 ^ n := Nat.pow_le_pow_left (by decide) n

lemma beyond_eq_mul {m : ℕ} (h : m + 1074 = 2098) : beyond = 2 ^ m * one := by
  rw [beyond_eq, one_eq, ← Nat.pow_add, h]

namespace Decimal

/-- The magnitude of a decimal number. -/
def magnitude (d : Decimal) : ℚ := d.digits * (10 : ℚ) ^ d.exponent

lemma steps_snd_pos (d : Decimal) : 0 < d.steps.2 := by
  unfold steps
  split
  · exact Nat.one_pos
  · exact Nat.pow_pos (by decide)

/-- The steps of a decimal number, as a quotient. -/
lemma steps_eq (d : Decimal) : (d.steps.1 : ℚ) / d.steps.2 = d.magnitude * one := by
  unfold steps magnitude
  split
  case isTrue h =>
    obtain ⟨n, hn⟩ := Int.eq_ofNat_of_zero_le h
    rw [hn, Int.toNat_natCast, zpow_natCast]
    push_cast
    ring
  case isFalse h =>
    obtain ⟨n, hn⟩ := Int.eq_ofNat_of_zero_le (show 0 ≤ -d.exponent by omega)
    rw [hn, Int.toNat_natCast, show d.exponent = -(n : ℤ) by omega, zpow_neg, zpow_natCast]
    push_cast
    field_simp

/-- Decimal numbers of one magnitude are as many steps. -/
lemma steps_mul_eq_of_magnitude_eq {d d' : Decimal} (h : d.magnitude = d'.magnitude) :
    d.steps.1 * d'.steps.2 = d'.steps.1 * d.steps.2 := by
  have hpos : (0 : ℚ) < d.steps.2 := by exact_mod_cast d.steps_snd_pos
  have hpos' : (0 : ℚ) < d'.steps.2 := by exact_mod_cast d'.steps_snd_pos
  have hquot : (d.steps.1 : ℚ) / d.steps.2 = d'.steps.1 / d'.steps.2 := by
    rw [steps_eq, steps_eq, h]
  rw [div_eq_div_iff hpos.ne' hpos'.ne'] at hquot
  exact_mod_cast hquot

/-- A decimal number of great power is beyond the range. -/
lemma beyond_le_nearestSteps {d : Decimal} (hdigits : d.digits ≠ 0) (h : 400 < d.exponent) :
    beyond ≤ nearestSteps d.steps.1 d.steps.2 := by
  have hnum {m : ℕ} (hm : m ≤ 1200) : 2 ^ m * one ≤ d.digits * 10 ^ d.exponent.toNat * one :=
    Nat.mul_le_mul_right _ (calc
      2 ^ m ≤ 10 ^ d.exponent.toNat := two_pow_le_ten_pow (by omega)
      _ ≤ d.digits * 10 ^ d.exponent.toNat :=
        Nat.le_mul_of_pos_left _ (Nat.pos_of_ne_zero hdigits))
  have hgrid : gap beyond ∣ beyond := by
    rw [beyond_eq]
    exact gap_dvd_two_pow 2098
  rw [steps, if_pos (by omega)]
  refine le_nearestSteps Nat.one_pos hgrid ?_
  rw [Nat.mul_one, beyond_eq_mul (m := 1024) rfl]
  exact hnum (by decide)

/-- A decimal number of small power is less than half a step. -/
lemma nearestSteps_of_small {d : Decimal} (h : d.exponent + d.digits.log2 + 1 < -400) :
    nearestSteps d.steps.1 d.steps.2 = 0 := by
  rw [steps, if_neg (by omega)]
  apply nearestSteps_of_two_mul_lt
  have hlt : d.digits < 2 ^ (d.digits.log2 + 1) := Nat.lt_log2_self
  calc 2 * (d.digits * one) < 2 * (2 ^ (d.digits.log2 + 1) * one) :=
        Nat.mul_lt_mul_of_pos_left (Nat.mul_lt_mul_of_pos_right hlt one_pos) (by decide)
    _ = 2 ^ (1 + (d.digits.log2 + 1 + 1074)) := by
        rw [one_eq, Nat.pow_add 2 1, Nat.pow_add 2 (_ + 1) 1074, Nat.pow_one]
    _ ≤ 10 ^ (-d.exponent).toNat := two_pow_le_ten_pow (by omega)

/-- Every decimal number is rounded by its steps. -/
lemma nearest_eq (d : Decimal) : d.nearest = Number.nearest d.negative d.steps.1 d.steps.2 := by
  have hzero (h : nearestSteps d.steps.1 d.steps.2 = 0) :
      Number.nearest d.negative d.steps.1 d.steps.2 =
        .finite ⟨d.negative, 0, Binary64.representable_zero⟩ := by
    simp only [Number.nearest, h, beyond_pos, dif_pos]
  unfold nearest
  split
  case isTrue hdigits =>
    refine (hzero (nearestSteps_of_two_mul_lt ?_)).symm
    have hnum : d.steps.1 = 0 := by
      unfold steps
      split <;> simp [hdigits]
    rw [hnum]
    exact d.steps_snd_pos
  case isFalse hdigits =>
    split
    case isTrue hlarge =>
      rw [Number.nearest, dif_neg (Nat.not_lt.mpr (beyond_le_nearestSteps hdigits hlarge))]
    case isFalse =>
      split
      case isTrue hsmall => exact (hzero (nearestSteps_of_small hsmall)).symm
      case isFalse => rfl

/-- Decimal numbers of one sign and one magnitude denote the same double. -/
lemma nearest_congr {d d' : Decimal} (hsign : d.negative = d'.negative)
    (h : d.magnitude = d'.magnitude) : d.nearest = d'.nearest := by
  rw [nearest_eq, nearest_eq, hsign]
  exact Number.nearest_congr _ d.steps_snd_pos d'.steps_snd_pos (steps_mul_eq_of_magnitude_eq h)

end Decimal

end ShowControl.Number
