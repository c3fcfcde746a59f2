/-
Reading back the text of a double.

The shortest decimal number of a double is one that is rounded to it (`Decimal.nearest_shortest`):
every grid that is tried hands out only such points, and the last one has the double itself.  A
layout moves the point and fills in zeros, which changes neither sign nor magnitude
(`exists_written`).  So the text of a double, in whatever layout, denotes the double
(`denotes_write`).
-/
import Mathlib.Tactic.Ring
import ShowControl.Number.Shortest
import ShowControl.Proofs.Number.DecimalText
import ShowControl.Proofs.Number.Exact
import ShowControl.Proofs.Number.Nearest

namespace ShowControl.Number

/-! ### The shortest decimal number -/

/-- A decimal number above zero that is rounded to `n` steps. -/
structure RoundsTo (n : ℕ) (d : Decimal) : Prop where
  positive : d.negative = false
  steps : nearestSteps d.steps.1 d.steps.2 = n

lemma roundsTo_of_readsBack {n : ℕ} {d : Decimal} (hpositive : d.negative = false)
    (h : readsBack n d = true) : RoundsTo n d :=
  ⟨hpositive, beq_iff_eq.mp h⟩

/-- A grid hands out points that read back. -/
lemma roundsTo_of_gridPoint? {n : ℕ} {p : ℤ} {d : Decimal} (h : gridPoint? n p = some d) :
    RoundsTo n d := by
  unfold gridPoint? at h
  generalize inUnits n p = units at h
  obtain ⟨num, den⟩ := units
  dsimp only at h
  cases hbelow : readsBack n ⟨false, num / den, p⟩ <;>
    cases habove : readsBack n ⟨false, num / den + 1, p⟩ <;>
      simp only [hbelow, habove, Option.some.injEq, reduceCtorEq] at h
  case false.true =>
    subst h
    exact roundsTo_of_readsBack rfl habove
  case true.false =>
    subst h
    exact roundsTo_of_readsBack rfl hbelow
  case true.true =>
    subst h
    split
    · exact roundsTo_of_readsBack rfl hbelow
    · exact roundsTo_of_readsBack rfl habove

lemma nearestSteps_mul_five_pow {n : ℕ} (h : Representable n) (e : ℕ) :
    nearestSteps (n * 5 ^ e * 2 ^ e) (10 ^ e) = n := by
  rw [Nat.mul_assoc, ← Nat.mul_pow]
  exact nearestSteps_mul_right h (Nat.pow_pos (by decide))

/-- A double is a point of the finest grid. -/
lemma roundsTo_finest {n : ℕ} (h : Representable n) : RoundsTo n ⟨false, n * 5 ^ 1074, -1074⟩ := by
  have hneg : ¬ (0 : ℤ) ≤ -1074 := by decide
  have hpower : (- -1074 : ℤ).toNat = 1074 := rfl
  refine ⟨rfl, ?_⟩
  rw [Decimal.steps, if_neg hneg, hpower, one_eq, nearestSteps_mul_five_pow h]

lemma roundsTo_finerUntilBack {n : ℕ} (h : Representable n) (grids : ℕ) (p : ℤ) :
    RoundsTo n (finerUntilBack n grids p) := by
  induction grids generalizing p with
  | zero => exact roundsTo_finest h
  | succ grids ih =>
    rw [finerUntilBack]
    cases hpoint : gridPoint? n p with
    | none => exact ih (p - 1)
    | some d => exact roundsTo_of_gridPoint? hpoint

/-- The shortest decimal number of a double, with a sign, denotes the double. -/
lemma Decimal.nearest_shortest (x : Binary64) :
    Decimal.nearest ⟨x.negative, (shortest x.steps).digits, (shortest x.steps).exponent⟩ =
      .finite x := by
  have hrounds : nearestSteps (shortest x.steps).steps.1 (shortest x.steps).steps.2 = x.steps :=
    (roundsTo_finerUntilBack x.representable _ _).steps
  have hlt : nearestSteps (shortest x.steps).steps.1 (shortest x.steps).steps.2 < beyond := by
    rw [hrounds]
    exact x.representable.1
  -- the sign has no part in the steps
  have hsteps : steps ⟨x.negative, (shortest x.steps).digits, (shortest x.steps).exponent⟩ =
      (shortest x.steps).steps := rfl
  rw [nearest_eq, hsteps, Number.nearest, dif_pos hlt]
  simp only [hrounds]

/-! ### Digits -/

lemma natOfDigits_replicate_append (k : ℕ) (ds : List Char) :
    natOfDigits (List.replicate k '0' ++ ds) = natOfDigits ds := by
  rw [natOfDigits_eq_foldl, natOfDigits_eq_foldl, List.foldl_append]
  congr 1
  induction k with
  | zero => rfl
  | succ k ih => rw [List.replicate_succ, List.foldl_cons]; exact ih

lemma natOfDigits_append_replicate (k : ℕ) (ds : List Char) :
    natOfDigits (ds ++ List.replicate k '0') = natOfDigits ds * 10 ^ k := by
  induction k with
  | zero => simp
  | succ k ih =>
    rw [List.replicate_succ', ← List.append_assoc, natOfDigits_eq_foldl, List.foldl_append,
      ← natOfDigits_eq_foldl, ih, Nat.pow_succ]
    show 10 * _ + 0 = _
    rw [Nat.add_zero, Nat.mul_comm, Nat.mul_assoc]

/-! ### Layouts -/

/-- The text writes a decimal number of this sign and magnitude, in the strict way. -/
def WritesMagnitude (negative : Bool) (s : List Char) (q : ℚ) : Prop :=
  ∃ d, WritesStrictly negative s d ∧ d.negative = negative ∧ d.magnitude = q

/-- The magnitude of a decimal number from its parts. -/
lemma writesMagnitude_of_parts {negative : Bool} {s whole fraction : List Char} {i e : ℤ} {n : ℕ}
    (h : WritesStrictly negative s (.ofParts negative whole fraction i))
    (hdigits : natOfDigits (whole ++ fraction) = n) (hexponent : i - fraction.length = e) :
    WritesMagnitude negative s (n * (10 : ℚ) ^ e) := by
  refine ⟨_, h, rfl, ?_⟩
  rw [Decimal.magnitude, Decimal.ofParts, hdigits, hexponent]

lemma isDigit_of_mem_replicate {k : ℕ} {c : Char} (h : c ∈ List.replicate k '0') :
    c.isDigit = true := by
  rw [(List.mem_replicate.mp h).2]
  rfl

section Layouts

variable {ds : List Char} (h : AreDigits ds) (hlead : ds.head? ≠ some '0') (negative : Bool) (e : ℤ)

include h

section Plain

include hlead

/-- Digits with a point keep their magnitude, whether zeros stand before them, after them, or not at
all. -/
lemma writesMagnitude_plain :
    WritesMagnitude negative (Layout.plain ds (e + ds.length - 1))
      (natOfDigits ds * (10 : ℚ) ^ e) := by
  have hpos : 0 < ds.length := List.length_pos_of_ne_nil h.1
  unfold Layout.plain
  split
  case isTrue hlow =>
    -- zeros between the point and the digits
    generalize hk : (-(e + ds.length - 1) - 1).toNat = k
    have hfraction : AreDigits (List.replicate k '0' ++ ds) :=
      ⟨List.append_ne_nil_of_right_ne_nil _ h.1, fun c hc =>
        (List.mem_append.mp hc).elim isDigit_of_mem_replicate (h.2 c)⟩
    have hvalue : natOfDigits (['0'] ++ (List.replicate k '0' ++ ds)) = natOfDigits ds := by
      rw [show ['0'] = List.replicate 1 '0' from rfl, natOfDigits_replicate_append,
        natOfDigits_replicate_append]
    have hstrict : WritesStrictly negative (['0'] ++ _) _ :=
      .pointed ⟨by simp, by simp⟩ (fun _ => rfl) hfraction .absent
    have hwrites := writesMagnitude_of_parts (e := e) hstrict hvalue
      (by rw [List.length_append, List.length_replicate]; omega)
    rwa [List.append_nil] at hwrites
  case isFalse hhigh =>
    dsimp only
    generalize hk : (e + ds.length - 1).toNat + 1 = k
    split
    case isTrue hlong =>
      -- zeros between the digits and the point, and one behind it
      obtain ⟨j, rfl⟩ : ∃ j : ℕ, e = j := ⟨k - ds.length, by omega⟩
      have hzeros : k - ds.length = j := by omega
      have hwhole : AreDigits (ds ++ List.replicate j '0') :=
        h.append fun c => isDigit_of_mem_replicate
      have hhead : (ds ++ List.replicate j '0').head? ≠ some '0' := by
        rwa [List.head?_append_of_ne_nil _ h.1]
      have hvalue : natOfDigits ((ds ++ List.replicate j '0') ++ ['0']) =
          natOfDigits ds * 10 ^ (j + 1) := by
        rw [List.append_assoc, ← List.replicate_succ', natOfDigits_append_replicate]
      have hfraction : AreDigits ['0'] := ⟨by simp, by simp⟩
      have hstrict : WritesStrictly negative _ _ :=
        .pointed hwhole (absurd · hhead) hfraction .absent
      have hwrites := writesMagnitude_of_parts (e := -1) hstrict hvalue rfl
      have hmagnitude : ((natOfDigits ds * 10 ^ (j + 1) : ℕ) : ℚ) * (10 : ℚ) ^ (-1 : ℤ) =
          natOfDigits ds * (10 : ℚ) ^ (j : ℤ) := by
        rw [zpow_natCast, zpow_neg_one, Nat.cast_mul, Nat.cast_pow, pow_succ]
        push_cast
        ring
      rw [hmagnitude, List.append_nil, List.append_assoc] at hwrites
      rwa [hzeros]
    case isFalse hshort =>
      have hsplit : ds.take k ++ ds.drop k = ds := List.take_append_drop k ds
      have hwhole : AreDigits (ds.take k) :=
        ⟨by simp [h.1, ← hk], fun c hc => h.2 c (List.mem_of_mem_take hc)⟩
      have hfraction : AreDigits (ds.drop k) :=
        ⟨by simp; omega, fun c hc => h.2 c (List.mem_of_mem_drop hc)⟩
      have hhead : (ds.take k).head? ≠ some '0' := by
        rwa [← List.head?_append_of_ne_nil _ hwhole.1, hsplit]
      have hstrict : WritesStrictly negative _ _ :=
        .pointed hwhole (absurd · hhead) hfraction .absent
      have hwrites := writesMagnitude_of_parts (e := e) hstrict (congrArg natOfDigits hsplit)
        (by rw [List.length_drop]; omega)
      rwa [List.append_nil] at hwrites

end Plain

/-- One digit before the point, or no point, and a power. -/
lemma writesMagnitude_scientific :
    WritesMagnitude negative (Layout.scientific ds (e + ds.length - 1))
      (natOfDigits ds * (10 : ℚ) ^ e) := by
  have hpower (i : ℤ) : WritesInteger ((if i < 0 then '-' else '+') :: natText i.natAbs) i := by
    have hvalue : Nat.ofDigitChars 10 (natText i.natAbs) 0 = i.natAbs :=
      Nat.ofDigitChars_ten_toDigits
    rw [writesInteger_iff]
    split
    · exact ⟨_, _, _, .minus, areDigits_natText _, rfl, by rw [hvalue, if_pos rfl]; omega⟩
    · exact ⟨_, _, _, .plus, areDigits_natText _, rfl, by rw [hvalue, if_neg (by decide)]; omega⟩
  unfold Layout.scientific
  split
  case h_1 d₁ d₂ ds =>
    have hwhole : AreDigits [d₁] := ⟨by simp, by simpa using h.2 d₁ List.mem_cons_self⟩
    have hfraction : AreDigits (d₂ :: ds) :=
      ⟨by simp, fun c hc => h.2 c (List.mem_cons_of_mem _ hc)⟩
    exact writesMagnitude_of_parts (e := e)
      (.pointed hwhole (fun _ => rfl) hfraction (.given (.inl rfl) (hpower _))) rfl (by
        simp only [List.length_cons]; omega)
  case h_2 hone =>
    have hlength : ds.length = 1 := by
      match ds, h.1, hone with
      | [_], _, _ => rfl
      | d₁ :: d₂ :: ds, _, hone => exact (hone d₁ d₂ ds rfl).elim
    exact writesMagnitude_of_parts (e := e) (.powered h (fun _ => hlength) (.inl rfl) (hpower _))
      (by rw [List.append_nil]) (by simp only [List.length_nil]; omega)

end Layouts

/-! ### Doubles -/

/-- The shortest decimal number of a number above zero has a digit above zero. -/
lemma digits_shortest_ne_zero {n : ℕ} (h : Representable n) (hn : n ≠ 0) :
    (shortest n).digits ≠ 0 := by
  intro hzero
  have hrounds := (roundsTo_finerUntilBack h (coarsest n + 1074).toNat (coarsest n)).steps
  refine hn (hrounds.symm.trans ?_)
  have hsteps : (shortest n).steps.1 = 0 := by
    rw [Decimal.steps]
    split <;> simp [hzero]
  rw [← Nat.le_zero]
  refine nearestSteps_le ?_ (Nat.dvd_zero _) ?_
  · rw [Decimal.steps]
    split <;> simp
  · rw [Nat.zero_mul]
    exact hsteps.le

namespace Layout

variable (l : Layout)

/-- The text of a magnitude writes the shortest decimal number. -/
lemma writesMagnitude_magnitude {n : ℕ} (hrep : Representable n) (hn : n ≠ 0) (negative : Bool) :
    WritesMagnitude negative (l.magnitude n) (shortest n).magnitude := by
  have hdigits := areDigits_natText (shortest n).digits
  have hlead : (natText (shortest n).digits).head? ≠ some '0' :=
    digits_shortest_ne_zero hrep hn ∘ eq_zero_of_head?_natText
  rw [magnitude, if_neg hn, Decimal.magnitude]
  rw [← natOfDigits_natText (shortest n).digits]
  dsimp only
  split
  · exact writesMagnitude_plain hdigits hlead negative _
  · exact writesMagnitude_scientific hdigits negative _

/-- The text of a magnitude writes a decimal number, strictly, that denotes the double, once it has
a sign. -/
lemma exists_writesStrictly_magnitude (x : Binary64) :
    ∃ d, WritesStrictly x.negative (l.magnitude x.steps) d ∧ d.nearest = .finite x := by
  by_cases hzero : x.steps = 0
  · obtain ⟨negative, steps, hrep⟩ := x
    subst hzero
    have hdigit : AreDigits ['0'] := ⟨by simp, by simp⟩
    exact ⟨_, .pointed hdigit (fun _ => rfl) hdigit .absent, rfl⟩
  · obtain ⟨d, hd, hsign, hmagnitude⟩ :=
      l.writesMagnitude_magnitude x.representable hzero x.negative
    have hnearest : d.nearest =
        Decimal.nearest ⟨x.negative, (shortest x.steps).digits, (shortest x.steps).exponent⟩ :=
      Decimal.nearest_congr hsign hmagnitude
    exact ⟨d, hd, hnearest.trans (Decimal.nearest_shortest x)⟩

/-- **Doubles are read back.**  The text of a double denotes the double. -/
lemma denotes_write (x : Binary64) : Denotes (l.write x) (.finite x) := by
  obtain ⟨d, hd, hnearest⟩ := l.exists_writesStrictly_magnitude x
  obtain ⟨sign, hsign, hchars⟩ := exists_sign x.negative (l.magnitude x.steps)
  rw [write, hchars, ← hnearest]
  exact .decimal hsign hd.writesDecimal

end Layout

end ShowControl.Number
