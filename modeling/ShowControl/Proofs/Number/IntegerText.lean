/-
The texts of integers.

A text writes an integer if it is digits, at least one, with at most one sign in front
(`WritesInteger`).  It writes no other integer (`WritesInteger.unique`), however long it is.  A
reader for a range with negative members reads these texts and no others, as long as the integer is
in the range (`readInteger_eq_ok_iff`).
-/
import Mathlib.Data.List.Induction
import ShowControl.Proofs.Number.Digits

namespace ShowControl.Number

/-- Digits, at least one. -/
def AreDigits (ds : List Char) : Prop := ds ≠ [] ∧ ∀ c ∈ ds, c.isDigit = true

/-- The text writes the integer: digits, with or without a sign in front. -/
inductive WritesInteger : List Char → ℤ → Prop where
  | bare {ds : List Char} (h : AreDigits ds) : WritesInteger ds (Nat.ofDigitChars 10 ds 0 : ℕ)
  | plus {ds : List Char} (h : AreDigits ds) :
      WritesInteger ('+' :: ds) (Nat.ofDigitChars 10 ds 0 : ℕ)
  | minus {ds : List Char} (h : AreDigits ds) :
      WritesInteger ('-' :: ds) (-(Nat.ofDigitChars 10 ds 0 : ℕ))

lemma not_areDigits_cons {c : Char} {ds : List Char} (h : c.isDigit = false) :
    ¬ AreDigits (c :: ds) := by
  intro hdigits
  rw [hdigits.2 c List.mem_cons_self] at h
  cases h

/-- A text writes one integer at most. -/
lemma WritesInteger.unique {s : List Char} {i j : ℤ} (hi : WritesInteger s i)
    (hj : WritesInteger s j) : i = j := by
  -- a sign is no digit, so the first character tells which way the text is written
  cases hi with
  | bare h =>
    cases hj with
    | bare => rfl
    | plus => exact absurd h (not_areDigits_cons (by decide))
    | minus => exact absurd h (not_areDigits_cons (by decide))
  | plus =>
    cases hj with
    | bare h => exact absurd h (not_areDigits_cons (by decide))
    | plus => rfl
  | minus =>
    cases hj with
    | bare h => exact absurd h (not_areDigits_cons (by decide))
    | minus => rfl

lemma areDigits_natText (n : ℕ) : AreDigits (natText n) :=
  ⟨natText_ne_nil n, fun _ => isDigit_of_mem_natText⟩

/-- The text of an integer writes it. -/
lemma writesInteger_intText (i : ℤ) : WritesInteger (intText i) i := by
  have hdigits := areDigits_natText i.natAbs
  have hvalue : Nat.ofDigitChars 10 (natText i.natAbs) 0 = i.natAbs := Nat.ofDigitChars_ten_toDigits
  unfold intText
  split
  · have hminus := WritesInteger.minus hdigits
    rwa [hvalue, show -(i.natAbs : ℤ) = i by omega] at hminus
  · have hbare := WritesInteger.bare hdigits
    rwa [hvalue, show (i.natAbs : ℤ) = i by omega] at hbare

/-! ### Digits without zeros in front -/

/-- A digit is the one of its value. -/
lemma digitChar_of_isDigit {c : Char} (h : c.isDigit = true) :
    c.toNat - 48 < 10 ∧ (c.toNat - 48).digitChar = c := by
  have hvalue : ∀ d < 10, d.digitChar.toNat = 48 + d := by decide
  rw [Char.isDigit_iff_toNat, show '0'.toNat = 48 from rfl, show '9'.toNat = 57 from rfl] at h
  have hlt : c.toNat - 48 < 10 := by omega
  refine ⟨hlt, Char.toNat_inj.mp ?_⟩
  rw [hvalue _ hlt]
  omega

/-- Digits that do not begin with a zero, unless it is all there is, are the text of their
number. -/
lemma AreDigits.natText_eq {ds : List Char} (h : AreDigits ds)
    (hlead : ds.head? = some '0' → ds.length = 1) : natText (Nat.ofDigitChars 10 ds 0) = ds := by
  induction ds using List.reverseRecOn with
  | nil => exact absurd rfl h.1
  | append_singleton ds c ih =>
    obtain ⟨hlt, hchar⟩ := digitChar_of_isDigit (h.2 c (by simp))
    rw [Nat.ofDigitChars_append, Nat.ofDigitChars_cons, Nat.ofDigitChars_nil,
      show '0'.toNat = 48 from rfl]
    by_cases hds : ds = []
    · rw [hds, Nat.ofDigitChars_nil, Nat.mul_zero, Nat.zero_add, natText,
        Nat.toDigits_of_lt_base hlt, hchar, List.nil_append]
    · -- the digits in front begin with no zero, so their number is not zero
      have hhead : ds.head? ≠ some '0' := by
        intro hzero
        have hlength := hlead (by rw [List.head?_append_of_ne_nil _ hds, hzero])
        rw [List.length_append, List.length_singleton] at hlength
        exact hds (List.eq_nil_of_length_eq_zero (by omega))
      have hfront := ih ⟨hds, fun d hd => h.2 d (List.mem_append_left _ hd)⟩
        fun hzero => absurd hzero hhead
      have hpos : Nat.ofDigitChars 10 ds 0 ≠ 0 := by
        intro hzero
        rw [hzero] at hfront
        exact hhead (hfront ▸ rfl)
      generalize Nat.ofDigitChars 10 ds 0 = n at hfront hpos
      rw [natText, Nat.toDigits_eq_if (by decide), if_neg (by omega),
        show (10 * n + (c.toNat - 48)) / 10 = n by omega,
        show (10 * n + (c.toNat - 48)) % 10 = c.toNat - 48 by omega, hchar]
      exact congrArg (· ++ [c]) hfront

/-! ### Reading -/

/-- What is read to its end is digits, and denotes no more than the bound. -/
lemma of_readMagnitude_eq_ok {bound n m : ℕ} {fault : IntegerFault} {ds : List Char}
    (hn : n ≤ bound) (h : readMagnitude bound fault n ds = .ok m) :
    (∀ c ∈ ds, c.isDigit = true) ∧ ds.foldl pushDigit n = m ∧ m ≤ bound := by
  induction ds generalizing n with
  | nil =>
    cases h
    exact ⟨by simp, rfl, hn⟩
  | cons c ds ih =>
    rw [readMagnitude] at h
    split at h
    case isFalse => cases h
    case isTrue hc =>
      dsimp only at h
      split at h
      case isTrue => cases h
      case isFalse hle =>
        obtain ⟨hdigits, hfold, hm⟩ := ih (Nat.le_of_not_lt hle) h
        exact ⟨List.forall_mem_cons.mpr ⟨hc, hdigits⟩, hfold, hm⟩

/-- The digits that are read within a bound. -/
lemma readMagnitude_zero_eq_ok_iff {bound n : ℕ} {fault : IntegerFault} {ds : List Char} :
    readMagnitude bound fault 0 ds = .ok n ↔
      (∀ c ∈ ds, c.isDigit = true) ∧ Nat.ofDigitChars 10 ds 0 = n ∧ n ≤ bound := by
  have hvalue : Nat.ofDigitChars 10 ds 0 = ds.foldl pushDigit 0 := Nat.ofDigitChars_eq_foldl
  rw [hvalue]
  constructor
  · exact of_readMagnitude_eq_ok (Nat.zero_le bound)
  · rintro ⟨hdigits, rfl, hle⟩
    exact readMagnitude_eq_ok hdigits hle

lemma map_eq_ok_iff {ε α β : Type} {x : Except ε α} {f : α → β} {b : β} :
    x.map f = .ok b ↔ ∃ a, x = .ok a ∧ f a = b := by
  cases x <;> simp [Except.map]

/-- A reader for a range with negative members reads the texts of the integers of the range. -/
lemma readInteger_eq_ok_iff {range : IntegerRange} (hbelow : 0 < range.below) {s : List Char}
    {i : ℤ} :
    readInteger range s = .ok i ↔ WritesInteger s i ∧ -(range.below : ℤ) ≤ i ∧ i ≤ range.above := by
  constructor
  · intro h
    unfold readInteger at h
    split at h
    case h_1 => cases h
    case h_2 d r =>
      obtain ⟨n, hn, rfl⟩ := map_eq_ok_iff.mp h
      obtain ⟨hdigits, rfl, hle⟩ := readMagnitude_zero_eq_ok_iff.mp hn
      simp only [Int.ofNat_eq_natCast]
      exact ⟨.plus ⟨by simp, hdigits⟩, by omega, by omega⟩
    case h_3 d r =>
      rw [if_neg (by omega)] at h
      obtain ⟨n, hn, rfl⟩ := map_eq_ok_iff.mp h
      obtain ⟨hdigits, rfl, hle⟩ := readMagnitude_zero_eq_ok_iff.mp hn
      simp only [Int.ofNat_eq_natCast]
      exact ⟨.minus ⟨by simp, hdigits⟩, by omega, by omega⟩
    case h_4 s hne _ _ =>
      obtain ⟨n, hn, rfl⟩ := map_eq_ok_iff.mp h
      obtain ⟨hdigits, rfl, hle⟩ := readMagnitude_zero_eq_ok_iff.mp hn
      simp only [Int.ofNat_eq_natCast]
      exact ⟨.bare ⟨hne, hdigits⟩, by omega, by omega⟩
  · rintro ⟨hwrites, hlo, hhi⟩
    cases hwrites with
    | bare hds =>
      rw [readInteger_of_digits hds.1 hds.2, map_eq_ok_iff]
      exact ⟨_, readMagnitude_zero_eq_ok_iff.mpr ⟨hds.2, rfl, by omega⟩, rfl⟩
    | @plus ds hds =>
      obtain ⟨d, r, rfl⟩ := List.exists_cons_of_ne_nil hds.1
      rw [readInteger, map_eq_ok_iff]
      exact ⟨_, readMagnitude_zero_eq_ok_iff.mpr ⟨hds.2, rfl, by omega⟩, rfl⟩
    | @minus ds hds =>
      obtain ⟨d, r, rfl⟩ := List.exists_cons_of_ne_nil hds.1
      rw [readInteger, if_neg (by omega), map_eq_ok_iff]
      exact ⟨_, readMagnitude_zero_eq_ok_iff.mpr ⟨hds.2, rfl, by omega⟩, rfl⟩

end ShowControl.Number
