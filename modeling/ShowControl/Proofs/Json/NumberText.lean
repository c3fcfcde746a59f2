/-
The text of a number in place of the number.

Wherever a double is wanted, a number may be given as a text.  A document has whole numbers and
doubles, and the text of either denotes the double that the number itself is read as
(`JsonNumber.denotes_chars`): a whole number is rounded from its digits as it is from its value, and
a double is read back.

Blanks around a text do not matter.  `Json.Gives` says which double a value gives, and this is what
the reader makes of it (`Json.finiteNumber?_eq_some_iff`).  So the text of a number, with any blanks
around it, is read as the number is (`Json.finiteNumber?_around`).

Two more relations are said by it: which double a field stands for that may be missing
(`Json.StandsFor`), and which exact value a field has (`Json.HasValue`).
-/
import ShowControl.Proofs.Json.Number
import ShowControl.Proofs.Json.Text
import ShowControl.Proofs.Number.ReadBack
import ShowControl.Proofs.Text.Blank

namespace ShowControl

namespace Number

/-! ### No blanks in numbers -/

lemma AreDigits.filled {ds : List Char} (h : AreDigits ds) : Text.Filled ds :=
  Text.filled_of_digits h.2

lemma Sign.filled {s : List Char} {negative : Bool} (h : Sign s negative) : Text.Filled s := by
  cases h <;> simp [Text.Filled] <;> decide

lemma WritesInteger.filled {s : List Char} {i : ℤ} (h : WritesInteger s i) : Text.Filled s := by
  obtain ⟨sign, negative, ds, hsign, hds, rfl, -⟩ := writesInteger_iff.mp h
  exact hsign.filled.append hds.filled

lemma WritesDecimal.filled {negative : Bool} {s : List Char} {d : Decimal}
    (h : WritesDecimal negative s d) : Text.Filled s := by
  obtain ⟨hm, hp⟩ := h
  refine Text.Filled.append ?_ ?_
  · cases hm with
    | whole h => exact h.filled
    | pointed h =>
      intro c hc
      rcases List.mem_append.mp hc with hc | hc
      · exact h.filled c (List.mem_append_left _ hc)
      · rcases List.mem_cons.mp hc with rfl | hc
        · decide
        · exact h.filled c (List.mem_append_right _ hc)
  · cases hp with
    | absent => exact fun c hc => absurd hc List.not_mem_nil
    | given hletter h =>
      refine List.forall_mem_cons.mpr ⟨?_, h.filled⟩
      rcases hletter with rfl | rfl <;> decide

lemma Denotes.filled {s : List Char} {x : Binary64} (h : Denotes s (.finite x)) :
    Text.Filled s := by
  generalize he : Extended.finite x = e at h
  cases h with
  | decimal hsign h => exact hsign.filled.append h.filled
  | infinite | nan => cases he

end Number

/-! ### Numbers of documents -/

namespace JsonNumber

open Number (WritesDecimal Denotes)

/-- The decimal number that a whole number is written as. -/
lemma nearest_wholeDecimal (negative : Bool) (k : ℕ) :
    Number.Decimal.nearest ⟨negative, k, 0⟩ = Number.nearest negative (k * Number.one) 1 := by
  rw [Number.Decimal.nearest_eq, Number.Decimal.steps, if_pos (le_refl _), Int.toNat_zero,
    Nat.pow_zero, Nat.mul_one]

/-- The text of a number denotes the double nearest to the number. -/
lemma denotes_chars (n : JsonNumber) : Denotes n.chars n.nearest := by
  cases n with
  | whole i isWord =>
    have hwrites : WritesDecimal (decide (i < 0)) (Number.natText i.natAbs)
        ⟨decide (i < 0), i.natAbs, 0⟩ := by
      have hmk : WritesDecimal (decide (i < 0)) _ _ :=
        .mk (.whole (Number.areDigits_natText i.natAbs)) .absent
      rwa [List.append_nil, Number.Decimal.ofParts, List.append_nil,
        Number.natOfDigits_natText] at hmk
    obtain ⟨sign, hsign, hsigned⟩ := Number.exists_sign (decide (i < 0)) (Number.natText i.natAbs)
    have hchars : (whole i isWord).chars = sign ++ Number.natText i.natAbs := by
      rw [← hsigned]
      simp only [decide_eq_true_eq]
      rfl
    have hnearest : Number.Decimal.nearest ⟨decide (i < 0), i.natAbs, 0⟩ =
        (whole i isWord).nearest := nearest_wholeDecimal _ _
    rw [hchars, ← hnearest]
    exact .decimal hsign hwrites
  | double x => exact layout.denotes_write x

end JsonNumber

namespace Json

/-- Blanks to be put around a text. -/
structure Margins where
  front : List Char
  back : List Char
  front_blank : ∀ c ∈ front, Text.isBlank c = true
  back_blank : ∀ c ∈ back, Text.isBlank c = true

/-- The text with the blanks around it. -/
def Margins.around (m : Margins) (s : String) : String :=
  String.ofList (m.front ++ (s.toList ++ m.back))

/-- Every text stands between its blanks. -/
lemma exists_around (s : String) :
    ∃ m : Margins, s = m.around (String.ofList (Text.trim s.toList)) := by
  obtain ⟨front, back, hs, hfront, hback⟩ := Text.exists_trimmed s.toList
  refine ⟨⟨front, back, hfront, hback⟩, ?_⟩
  rw [Margins.around, String.toList_ofList, ← hs, String.ofList_toList]

/-- The value gives the finite double: it is a number and this is the nearest double, or it is a
text that denotes the double, with any blanks around it. -/
inductive Gives : Json → Number.Binary64 → Prop where
  | number {n : JsonNumber} {x : Number.Binary64} (h : n.nearest = .finite x) :
      Gives (.number n) x
  | text {s : String} {x : Number.Binary64} (m : Margins)
      (h : Number.Denotes s.toList (.finite x)) : Gives (.string (m.around s)) x

/-- Numbers and texts are read as the finite doubles that they give. -/
lemma finiteNumber?_eq_some_iff {j : Json} {x : Number.Binary64} :
    j.finiteNumber? = some x ↔ j.Gives x := by
  constructor
  · intro h
    cases j with
    | number n => exact .number (Number.Extended.finite?_eq_some.mp h)
    | string s =>
      obtain ⟨e, hread, hfinite⟩ := Option.bind_eq_some_iff.mp h
      rw [Number.Extended.finite?_eq_some.mp hfinite] at hread
      obtain ⟨m, hs⟩ := exists_around s
      rw [hs]
      refine .text m ?_
      rw [String.toList_ofList]
      exact Number.readExtended?_eq_some_iff.mp hread
    | _ => cases h
  · intro h
    cases h with
    | number h => exact Number.Extended.finite?_eq_some.mpr h
    | @text s x m h =>
      have htrim : Text.trim (m.around s).toList = s.toList := by
        rw [Margins.around, String.toList_ofList]
        exact Text.trim_padded m.front_blank m.back_blank h.filled
      refine Option.bind_eq_some_iff.mpr ⟨.finite x, ?_, rfl⟩
      rw [htrim]
      exact Number.readExtended?_eq_some_iff.mpr h

/-- Every number gives a double, and so does its text, with any blanks around it: the same. -/
lemma exists_gives (n : JsonNumber) :
    ∃ x, (number n).Gives x ∧ ∀ m : Margins, (string (m.around (number n).text)).Gives x := by
  obtain ⟨x, hx, -⟩ := n.exists_nearest
  refine ⟨x, .number hx, fun m => .text m ?_⟩
  rw [text, String.toList_ofList, chars_number, ← hx]
  exact n.denotes_chars

/-- **Numbers as texts.**  The text of a number, with any blanks around it, is read as the number
is. -/
lemma finiteNumber?_around (m : Margins) (n : JsonNumber) :
    (string (m.around (number n).text)).finiteNumber? = (number n).finiteNumber? := by
  obtain ⟨x, hnumber, htext⟩ := exists_gives n
  rw [finiteNumber?_eq_some_iff.mpr hnumber, finiteNumber?_eq_some_iff.mpr (htext m)]

/-! ### Fields that may be missing -/

/-- The double that a field stands for: the one that it gives, and the default one if it is missing
or gives none. -/
structure StandsFor (field : Option Json) (default x : Number.Binary64) : Prop where
  given : ∀ j, field = some j → ∀ y, j.Gives y → x = y
  missing : (∀ j, field = some j → ∀ y, ¬ j.Gives y) → x = default

/-- The reader takes the double that the field stands for, and it stands for no other. -/
lemma standsFor_iff {field : Option Json} {default x : Number.Binary64} :
    StandsFor field default x ↔ x = (field.bind finiteNumber?).getD default := by
  cases hread : field.bind finiteNumber? with
  | none =>
    have hnone : ∀ j, field = some j → ∀ y, ¬ j.Gives y := by
      rintro j rfl y hy
      rw [Option.bind_some, finiteNumber?_eq_some_iff.mpr hy] at hread
      cases hread
    exact ⟨fun h => h.missing hnone,
      fun h => ⟨fun j hj y hy => absurd hy (hnone j hj y), fun _ => h⟩⟩
  | some y =>
    obtain ⟨j, rfl, hy⟩ := Option.bind_eq_some_iff.mp hread
    have hgives := finiteNumber?_eq_some_iff.mp hy
    refine ⟨fun h => h.given j rfl y hgives, fun hx => ⟨?_, fun hnone => ?_⟩⟩
    · rintro j' ⟨⟩ z hz
      exact hx.trans (Option.some.inj (hy.symm.trans (finiteNumber?_eq_some_iff.mpr hz)))
    · exact absurd hgives (hnone j rfl y)

lemma exists_standsFor (field : Option Json) (default : Number.Binary64) :
    ∃ x, StandsFor field default x := ⟨_, standsFor_iff.mpr rfl⟩

/-! ### Exact values -/

/-- The value is a number of this exact value, or it is a text that gives a double of this value. -/
inductive HasValue : Json → ℚ → Prop where
  | number (n : JsonNumber) : HasValue (.number n) n.value
  | text {s : String} {x : Number.Binary64} (h : (string s).Gives x) : HasValue (.string s) x.value

/-- What has a value gives a double, which truncated lies on the same side of every whole number of
at most 53 bits. -/
lemma HasValue.exists_gives {j : Json} {q : ℚ} (h : j.HasValue q) :
    ∃ x, j.Gives x ∧ ∀ k : ℕ, k < 2 ^ 53 →
      (Number.towardZero q ≤ k → x.truncate ≤ k) ∧
        (k ≤ Number.towardZero q → k ≤ x.truncate) := by
  cases h with
  | number n =>
    obtain ⟨x, hx, hsides⟩ := n.exists_nearest
    exact ⟨x, .number hx, hsides⟩
  | @text s x h =>
    refine ⟨x, h, ?_⟩
    intro k hk
    rw [x.truncate_eq]
    exact ⟨id, id⟩

/-- What has no value, and only that, is not read as a double. -/
lemma finiteNumber?_eq_none_iff {j : Json} : j.finiteNumber? = none ↔ ∀ q, ¬ j.HasValue q := by
  rw [Option.eq_none_iff_forall_ne_some]
  constructor
  · intro hnone q hq
    obtain ⟨x, hx, -⟩ := hq.exists_gives
    exact hnone x (finiteNumber?_eq_some_iff.mpr hx)
  · intro hnone x hread
    cases finiteNumber?_eq_some_iff.mp hread with
    | number => exact hnone _ (.number _)
    | text m h => exact hnone _ (.text (.text m h))

end Json

end ShowControl
