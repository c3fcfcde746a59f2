/-
Reading back the text of a whole number.

The text of a number is its decimal digits, so reading it gives the number again, as long as the
number is in the range that is read for (`readInteger_natText`).  Reading stops at the first digit
that leads out of the range; the digits read so far never denote more than the whole text, so on a
number of the range it does not stop.
-/
import Mathlib.Data.Int.Notation
import Mathlib.Data.List.Basic
import Mathlib.Data.List.TakeDrop
import Mathlib.Data.Nat.Notation
import Mathlib.Tactic.Lemma
import ShowControl.Number.Decimal

namespace ShowControl.Number

lemma natText_ne_nil (n : ℕ) : natText n ≠ [] := Nat.toDigits_ne_nil

lemma isDigit_of_mem_natText {n : ℕ} {c : Char} (h : c ∈ natText n) : c.isDigit = true :=
  Nat.isDigit_of_mem_toDigits (by omega) (by omega) h

/-- The digits of a number denote it. -/
lemma foldl_pushDigit_natText (n : ℕ) : (natText n).foldl pushDigit 0 = n :=
  Nat.ofDigitChars_eq_foldl.symm.trans Nat.ofDigitChars_ten_toDigits

lemma natOfDigits_natText (n : ℕ) : natOfDigits (natText n) = n := by
  rw [natOfDigits_eq_foldl, foldl_pushDigit_natText]

/-- The text of a number begins with a zero only if it is the text of zero. -/
lemma eq_zero_of_head?_natText {n : ℕ} (h : (natText n).head? = some '0') : n = 0 := by
  induction n using Nat.strongRecOn with
  | ind n ih =>
    rw [natText, Nat.toDigits_eq_if (by omega)] at h
    split at h
    · rename_i hsmall
      have hdigit : ∀ n < 10, n.digitChar = '0' → n = 0 := by decide
      exact hdigit n hsmall (Option.some.inj h)
    · rename_i hlarge
      -- the first digit is that of the front part, which is not zero
      rw [List.head?_append_of_ne_nil _ Nat.toDigits_ne_nil] at h
      have hfront := ih (n / 10) (by omega) h
      omega

/-- The digits at the front of a text end where no digit follows. -/
lemma takeDigits_append {ds rest : List Char} (hdigits : ∀ c ∈ ds, c.isDigit = true)
    (hrest : ∀ c ∈ rest.head?, c.isDigit = false) : takeDigits (ds ++ rest) = (ds, rest) := by
  have hend : rest.takeWhile Char.isDigit = [] ∧ rest.dropWhile Char.isDigit = rest := by
    cases rest with
    | nil => exact ⟨rfl, rfl⟩
    | cons c rest => simp [hrest c rfl]
  rw [takeDigits, List.span_eq_takeWhile_dropWhile, List.takeWhile_append_of_pos hdigits,
    List.dropWhile_append_of_pos hdigits, hend.1, hend.2, List.append_nil]

/-- More digits do not make less. -/
lemma le_foldl_pushDigit (n : ℕ) (ds : List Char) : n ≤ ds.foldl pushDigit n := by
  induction ds generalizing n with
  | nil => exact Nat.le_refl n
  | cons c ds ih =>
    calc n ≤ pushDigit n c := by rw [pushDigit]; omega
      _ ≤ ds.foldl pushDigit (pushDigit n c) := ih _

/-- Digits are read to their end unless they denote too much. -/
lemma readMagnitude_eq_ok {bound n : ℕ} {fault : IntegerFault} {ds : List Char}
    (hdigits : ∀ c ∈ ds, c.isDigit = true) (hle : ds.foldl pushDigit n ≤ bound) :
    readMagnitude bound fault n ds = .ok (ds.foldl pushDigit n) := by
  induction ds generalizing n with
  | nil => rfl
  | cons c ds ih =>
    rw [List.foldl_cons] at hle ⊢
    -- what is read so far is no more than the whole, so the bound is never passed
    have hfits : ¬ bound < pushDigit n c :=
      Nat.not_lt.mpr (Nat.le_trans (le_foldl_pushDigit _ ds) hle)
    rw [pushDigit] at hfits
    rw [readMagnitude, if_pos (hdigits c List.mem_cons_self)]
    simp only [hfits, if_false]
    exact ih (fun d hd => hdigits d (List.mem_cons_of_mem c hd)) hle

/-- A text that begins with a digit has no sign. -/
lemma readInteger_of_digits {range : IntegerRange} {ds : List Char} (hne : ds ≠ [])
    (hdigits : ∀ c ∈ ds, c.isDigit = true) :
    readInteger range ds = (readMagnitude range.above .tooLarge 0 ds).map Int.ofNat := by
  unfold readInteger
  split
  · contradiction
  · exact absurd (hdigits '+' List.mem_cons_self) (by decide)
  · exact absurd (hdigits '-' List.mem_cons_self) (by decide)
  · rfl

/-- The text of a number of the range is read as the number. -/
lemma readInteger_natText {range : IntegerRange} {n : ℕ} (h : n ≤ range.above) :
    readInteger range (natText n) = .ok (n : ℤ) := by
  have hfold := foldl_pushDigit_natText n
  have hread : readMagnitude range.above .tooLarge 0 (natText n) = .ok n := by
    rw [readMagnitude_eq_ok (fun c => isDigit_of_mem_natText) (by rw [hfold]; exact h), hfold]
  rw [readInteger_of_digits (natText_ne_nil n) fun c => isDigit_of_mem_natText, hread]
  rfl

end ShowControl.Number
