/-
Texts with blanks around them.

Trimming takes the blanks off both ends (`trim_padded`), so a text without blanks comes out of any
padding as it went in.
-/
import Mathlib.Data.List.TakeWhile
import Mathlib.Tactic.Lemma
import ShowControl.Text.Blank

namespace ShowControl.Text

/-- The characters of a text are no blanks. -/
def Filled (s : List Char) : Prop := ∀ c ∈ s, isBlank c = false

lemma isBlank_of_isDigit {c : Char} (h : c.isDigit = true) : isBlank c = false := by
  have hrange : 48 ≤ c.toNat ∧ c.toNat ≤ 57 := Char.isDigit_iff_toNat.mp h
  simp only [isBlank, Bool.or_eq_false_iff, Bool.and_eq_false_iff, decide_eq_false_iff_not,
    beq_eq_false_iff_ne]
  omega

lemma filled_of_digits {ds : List Char} (h : ∀ c ∈ ds, c.isDigit = true) : Filled ds :=
  fun c hc => isBlank_of_isDigit (h c hc)

lemma Filled.append {s t : List Char} (hs : Filled s) (ht : Filled t) : Filled (s ++ t) :=
  fun c hc => (List.mem_append.mp hc).elim (hs c) (ht c)

/-- Blanks in front of a text are taken off, and nothing else if it begins with no blank. -/
lemma trimStart_padded {front s : List Char} (hfront : ∀ c ∈ front, isBlank c = true)
    (hs : ∀ c ∈ s.head?, isBlank c = false) : trimStart (front ++ s) = s := by
  rw [trimStart, List.dropWhile_append_of_pos hfront]
  cases s with
  | nil => rfl
  | cons c s => exact trimStart_cons (hs c rfl) s

/-- Blanks around a text are taken off. -/
lemma trim_padded {front s back : List Char} (hfront : ∀ c ∈ front, isBlank c = true)
    (hback : ∀ c ∈ back, isBlank c = true) (hs : Filled s) : trim (front ++ (s ++ back)) = s := by
  have hreverse : trimStart (back.reverse ++ s.reverse) = s.reverse :=
    trimStart_padded (fun c hc => hback c (List.mem_reverse.mp hc))
      fun c hc => hs c (List.mem_reverse.mp (List.mem_of_head? hc))
  cases s with
  | nil =>
    have hall : trimStart (front ++ back ++ []) = [] :=
      trimStart_padded (fun c hc => (List.mem_append.mp hc).elim (hfront c) (hback c)) (by simp)
    rw [List.append_nil] at hall
    rw [List.nil_append, trim, hall]
    rfl
  | cons c s =>
    have hstart : trimStart (front ++ (c :: s ++ back)) = c :: s ++ back :=
      trimStart_padded hfront (by rintro _ ⟨⟩; exact hs c List.mem_cons_self)
    rw [trim, hstart, List.reverse_append, hreverse, List.reverse_reverse]

/-- What is trimmed off is blank. -/
lemma exists_trimmed (s : List Char) : ∃ front back, s = front ++ (trim s ++ back) ∧
    (∀ c ∈ front, isBlank c = true) ∧ ∀ c ∈ back, isBlank c = true := by
  have hstart (r : List Char) : ∃ front, r = front ++ trimStart r ∧ ∀ c ∈ front, isBlank c = true :=
    ⟨r.takeWhile isBlank, List.takeWhile_append_dropWhile.symm, fun c => List.mem_takeWhile_imp⟩
  obtain ⟨front, hfront, hfrontBlank⟩ := hstart s
  obtain ⟨back, hback, hbackBlank⟩ := hstart (trimStart s).reverse
  have hinner : trimStart s = trim s ++ back.reverse := by
    rw [trim, ← List.reverse_append, ← hback, List.reverse_reverse]
  refine ⟨front, back.reverse, ?_, hfrontBlank, fun c hc => hbackBlank c (List.mem_reverse.mp hc)⟩
  rw [← hinner]
  exact hfront

lemma trim_of_filled {s : List Char} (hs : Filled s) : trim s = s :=
  trim_eq_self (fun c hc => hs c (List.mem_of_head? hc)) fun c hc => hs c (List.mem_of_getLast? hc)

end ShowControl.Text
