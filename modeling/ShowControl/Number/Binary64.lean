/-
Finite double-precision numbers, exactly.

A finite double is a sign and a whole number of steps of 2^-1074, the least positive value it can
hold.  Of the step counts below 2^2098 those with at most 53 significant bits occur, which is
`Representable`.  Every operation is exact integer arithmetic on step counts followed, where a
result need not be representable, by one rounding: `nearest`.

`Extended` adds the two infinities and the value that is no number, which text can name and
lists of levels can hold.
-/
import ShowControl.Number.Rounding

namespace ShowControl

/-- A power is the built-in one wherever there is one, also beside a library that brings its own. -/
@[default_instance 20000]
instance builtinPow {α : Type} [NatPow α] : Pow α Nat := instPowNat

namespace Number

/-- The number of steps in one. -/
@[irreducible] def one : Nat := 2 ^ 1074

/-- The first step count beyond the range: 2^1024. -/
@[irreducible] def beyond : Nat := 2 ^ 2098

theorem one_eq : one = 2 ^ 1074 := by unfold one; rfl

theorem beyond_eq : beyond = 2 ^ 2098 := by unfold beyond; rfl

theorem one_pos : 0 < one := by
  rw [one_eq]
  apply Nat.two_pow_pos

theorem beyond_pos : 0 < beyond := by
  rw [beyond_eq]
  apply Nat.two_pow_pos

/-- The distance between neighbouring doubles at `n` steps. -/
def gap (n : Nat) : Nat := 2 ^ (n.log2 - 52)

/-- The step counts that a double can hold: at most 53 significant bits, and in range. -/
def Representable (n : Nat) : Prop := n < beyond ∧ gap n ∣ n

instance (n : Nat) : Decidable (Representable n) := inferInstanceAs (Decidable (_ ∧ _))

/-- A finite double: a sign and a count of steps of 2^-1074.  Zero has both signs. -/
structure Binary64 where
  /-- Whether the sign bit is set. -/
  negative : Bool
  /-- The magnitude in steps. -/
  steps : Nat
  representable : Representable steps
deriving DecidableEq

/-- A double: finite, infinite, or no number. -/
inductive Extended where
  | finite (x : Binary64)
  | infinite (negative : Bool)
  | nan
deriving DecidableEq

/-- The step count nearest to `num / den` steps that has at most 53 significant bits. -/
def nearestSteps (num den : Nat) : Nat :=
  let g := gap (num / den)
  roundHalfEven num (den * g) * g

theorem gap_pos (n : Nat) : 0 < gap n := Nat.two_pow_pos _

theorem gap_eq_one {n : Nat} (h : n < 2 ^ 53) : gap n = 1 := by
  have : n.log2 ≤ 52 := by
    rcases Nat.eq_zero_or_pos n with rfl | hn
    · simp
    · exact Nat.lt_succ_iff.1 ((Nat.log2_lt (by omega)).2 h)
  rw [gap, Nat.sub_eq_zero_of_le this, Nat.pow_zero]

/-- A multiple of a gap with at most 53 bits in front of it is a multiple of its own gap. -/
theorem gap_dvd_mul {k e : Nat} (h : k ≤ 2 ^ 53) : gap (k * 2 ^ e) ∣ k * 2 ^ e := by
  rcases Nat.eq_zero_or_pos k with rfl | hk
  · simp
  rcases Nat.lt_or_eq_of_le h with hlt | rfl
  · refine Nat.dvd_trans ?_ (Nat.dvd_mul_left _ _)
    have hne : k * 2 ^ e ≠ 0 := Nat.mul_ne_zero (by omega) (by simp)
    have : (k * 2 ^ e).log2 < 53 + e := by
      rw [Nat.log2_lt hne, Nat.pow_add]
      exact Nat.mul_lt_mul_of_pos_right hlt (Nat.two_pow_pos e)
    exact Nat.pow_dvd_pow 2 (by omega)
  · rw [← Nat.pow_add, gap, Nat.log2_two_pow]
    exact Nat.pow_dvd_pow 2 (by omega)

theorem gap_dvd_nearestSteps (num den : Nat) :
    gap (nearestSteps num den) ∣ nearestSteps num den := by
  refine gap_dvd_mul (Nat.le_trans (roundHalfEven_le_succ _ _) ?_)
  rw [← Nat.div_div_eq_div_mul, Nat.succ_le_iff, gap]
  generalize num / den = q
  rcases Nat.eq_zero_or_pos q with rfl | hq
  · simp
  · rw [Nat.div_lt_iff_lt_mul (Nat.two_pow_pos _), ← Nat.pow_add]
    exact Nat.lt_of_lt_of_le (Nat.lt_log2_self) (Nat.pow_le_pow_right (by omega) (by omega))

/-- The double nearest to `num / den` steps, with the given sign; a half goes to the even neighbour,
and beyond the range lies the infinity. -/
def nearest (negative : Bool) (num den : Nat) : Extended :=
  if h : nearestSteps num den < beyond then
    .finite ⟨negative, nearestSteps num den, h, gap_dvd_nearestSteps num den⟩
  else .infinite negative

namespace Binary64

theorem representable_zero : Representable 0 :=
  ⟨beyond_pos, Nat.dvd_zero _⟩

/-- Zero, without a sign. -/
def zero : Binary64 := ⟨false, 0, representable_zero⟩

instance : Inhabited Binary64 := ⟨zero⟩

theorem mul_two_pow_lt {n e f : Nat} (h : n < 2 ^ 53) (hf : 53 + e ≤ f) : n * 2 ^ e < 2 ^ f :=
  calc n * 2 ^ e < 2 ^ 53 * 2 ^ e := Nat.mul_lt_mul_of_pos_right h (Nat.two_pow_pos e)
    _ = 2 ^ (53 + e) := (Nat.pow_add 2 53 e).symm
    _ ≤ 2 ^ f := Nat.pow_le_pow_right (by omega) hf

/-- Whole numbers of up to 53 bits are doubles. -/
theorem representable_mul_one {n : Nat} (h : n < 2 ^ 53) : Representable (n * one) := by
  rw [Representable, one_eq, beyond_eq]
  have inRange : n * 2 ^ 1074 < 2 ^ 2098 := mul_two_pow_lt (e := 1074) (f := 2098) h (by omega)
  have onGrid : gap (n * 2 ^ 1074) ∣ n * 2 ^ 1074 := gap_dvd_mul (e := 1074) (Nat.le_of_lt h)
  exact And.intro inRange onGrid

/-- A small whole number. -/
def ofNat (n : Nat) (h : n < 2 ^ 53) : Binary64 := ⟨false, n * one, representable_mul_one h⟩

/-- The value truncated toward zero. -/
def truncate (x : Binary64) : Int :=
  if x.negative then -((x.steps / one : Nat) : Int) else ((x.steps / one : Nat) : Int)

/-- The magnitude as a whole number, a half going away from zero. -/
def wholeMagnitude (x : Binary64) : Nat := roundHalfUp x.steps one

/-- The value with sign, in steps: the order of doubles is the order of these. -/
def signedSteps (x : Binary64) : Int := if x.negative then -(x.steps : Int) else (x.steps : Int)

/-- The value moved into the range from 0 to 1. -/
def clampUnit (x : Binary64) : Binary64 :=
  if x.signedSteps < 0 then zero else if one < x.steps then ofNat 1 (by omega) else x

/-- The product, rounded once. -/
def mul (x y : Binary64) : Extended :=
  nearest (x.negative != y.negative) (x.steps * y.steps) one

end Binary64

/-- The double nearest to a whole number. -/
def ofInt (i : Int) : Extended := nearest (i < 0) (i.natAbs * one) 1

/-- The whole number moved into the range of a signed 64-bit word. -/
def saturate (i : Int) : Int := max (-(2 ^ 63)) (min i (2 ^ 63 - 1))

namespace Extended

/-- The finite double, if it is one. -/
def finite? : Extended → Option Binary64
  | .finite x => some x
  | _ => none

/-- The value as a whole number, a half going away from zero. -/
def round : Extended → Extended
  | .finite x => nearest x.negative (x.wholeMagnitude * one) 1
  | x => x

end Extended

end Number

end ShowControl
