/-
The priority that a trigger asks for.

A number of a document, however it is held, is truncated toward zero and moved into the range from
0 to 100 (`Priority.number_priority`).  On the way it is cut to a signed 64-bit word, which comes to
the same, since the range of priorities lies inside (`Priority.clamped_saturate`).

A text has to write an integer, between blanks perhaps.  It is read as a signed 64-bit word, and
here the cut shows: a text of an integer beyond such words is refused, while the number would be
moved into the range (`Priority.text_priority`).
-/
import ShowControl.Proofs.Cue.Order
import ShowControl.Proofs.Json.Number
import ShowControl.Proofs.Number.IntegerText
import ShowControl.Proofs.Text.Blank

namespace ShowControl

open Number (WritesInteger towardZero)

/-- The text of an integer has no blanks around it. -/
lemma Text.trim_intText (i : ℤ) : trim (Number.intText i) = Number.intText i := by
  have hdigits : Filled (Number.natText i.natAbs) :=
    filled_of_digits fun c => Number.isDigit_of_mem_natText
  refine trim_of_filled ?_
  unfold Number.intText
  split
  · exact List.forall_mem_cons.mpr ⟨by decide, hdigits⟩
  · exact hdigits

namespace Priority

variable {fields fields' : Fields}

/-- The nearest priority, as an integer. -/
lemma value_clamped (i : ℤ) : ((clamped i).value : ℤ) = max 0 (min i 100) := by
  simp only [clamped]
  omega

lemma clamped_mono {i j : ℤ} (h : i ≤ j) : (clamped i).value ≤ (clamped j).value := by
  simp only [clamped]
  omega

/-- The range of priorities lies inside the range of words. -/
lemma clamped_saturate (i : ℤ) : clamped (Number.saturate i) = clamped i := by
  apply eq_of_value_eq
  simp only [clamped, Number.saturate]
  omega

/-! ### What a value stands for -/

lemma wholeNumber?_number (n : JsonNumber) :
    wholeNumber? (.number n) = some (Number.saturate (towardZero n.value)) := by
  cases n with
  | whole i hword => rw [JsonNumber.value, Number.towardZero_intCast, wholeNumber?]
  | double x => rw [JsonNumber.value, ← x.truncate_eq, wholeNumber?]

/-- A text stands for the integer that it writes between blanks, if that is a signed 64-bit word. -/
lemma wholeNumber?_string_eq_some_iff {s : String} {i : ℤ} :
    wholeNumber? (.string s) = some i ↔
      WritesInteger (Text.trim s.toList) i ∧ -(2 ^ 63) ≤ i ∧ i < 2 ^ 63 := by
  have hbelow : (Number.IntegerRange.signed64.below : ℤ) = 2 ^ 63 := rfl
  have habove : (Number.IntegerRange.signed64.above : ℤ) = 2 ^ 63 - 1 := rfl
  have hok : wholeNumber? (.string s) = some i ↔
      Number.readInteger .signed64 (Text.trim s.toList) = .ok i := by
    rw [wholeNumber?]
    cases Number.readInteger .signed64 (Text.trim s.toList) <;> simp [Except.toOption]
  rw [hok, Number.readInteger_eq_ok_iff (by decide), hbelow, habove, Int.le_sub_one_iff]

/-! ### What a trigger asks for -/

lemma ofFields_of_whole {value : Json} {i : ℤ} (h : fields.get? "priority" = some value)
    (hwhole : wholeNumber? value = some i) : ofFields fields = .ok (clamped i) := by
  cases value <;> simp_all [ofFields, wholeNumber?]

/-- A value that stands for no whole number is refused, unless it is null. -/
lemma ofFields_of_not_whole {value : Json} (h : fields.get? "priority" = some value)
    (hnull : value ≠ .null) (hwhole : wholeNumber? value = none) :
    ofFields fields = .error (notWhole value) := by
  cases value <;> simp_all [ofFields, wholeNumber?]

lemma ofFields_of_none (h : fields.get? "priority" = none ∨ fields.get? "priority" = some .null) :
    ofFields fields = .ok standard := by
  rcases h with h | h <;> simp only [ofFields, h]

/-- A text that writes a signed 64-bit word asks for the nearest priority. -/
lemma ofFields_text {s : String} {i : ℤ} (h : fields.get? "priority" = some (.string s))
    (hwrites : WritesInteger (Text.trim s.toList) i) (hlo : -(2 ^ 63) ≤ i) (hhi : i < 2 ^ 63) :
    ofFields fields = .ok (clamped i) :=
  ofFields_of_whole h (wholeNumber?_string_eq_some_iff.mpr ⟨hwrites, hlo, hhi⟩)

/-- Any other text is refused. -/
lemma ofFields_other_text {s : String} (h : fields.get? "priority" = some (.string s))
    (hother : ∀ i, WritesInteger (Text.trim s.toList) i → ¬ (-(2 ^ 63) ≤ i ∧ i < 2 ^ 63)) :
    ofFields fields = .error (notWhole (.string s)) := by
  refine ofFields_of_not_whole h Json.noConfusion ?_
  cases hwhole : wholeNumber? (.string s) with
  | none => rfl
  | some i =>
    obtain ⟨hwrites, hword⟩ := wholeNumber?_string_eq_some_iff.mp hwhole
    exact absurd hword (hother i hwrites)

lemma ofFields_number {n : JsonNumber} (h : fields.get? "priority" = some (.number n)) :
    ofFields fields = .ok (clamped (towardZero n.value)) := by
  rw [ofFields_of_whole h (wholeNumber?_number n), clamped_saturate]

/-- Nothing but what stands under its name has a say in the priority. -/
lemma ofFields_congr (h : fields.get? "priority" = fields'.get? "priority") :
    ofFields fields = ofFields fields' := by
  simp only [ofFields, h]

/-- The document of an integer that is a word holds it as it is. -/
lemma value_of_ofDecimal? {i : ℤ} {n : JsonNumber} (hword : IsWord i)
    (hread : JsonNumber.ofDecimal? true ⟨decide (i < 0), i.natAbs, 0⟩ = some n) : n.value = i := by
  have hsigned : (if decide (i < 0) = true then -(i.natAbs : ℤ) else i.natAbs) = i := by
    by_cases hneg : i < 0
    · rw [if_pos (decide_eq_true hneg)]
      omega
    · rw [if_neg (by simpa using hneg)]
      omega
  -- only the negative zero is held as a double, and the text of an integer has none
  have hplain : (true && !(decide (i < 0) && i.natAbs == 0)) = true := by
    simp only [Bool.true_and, Bool.not_eq_true', Bool.and_eq_false_iff, decide_eq_false_iff_not,
      beq_eq_false_iff_ne]
    omega
  simp only [JsonNumber.ofDecimal?, hsigned, dif_pos hword] at hread
  rw [if_pos hplain] at hread
  cases hread
  rfl

/-- A text is taken at the integer that it writes between blanks, of whatever size: this is moved
into the range of priorities, and a text that writes none is refused. -/
def TakenAtInteger (s : String) (outcome : Except Refusal Priority) : Prop :=
  (∀ i, WritesInteger (Text.trim s.toList) i →
    ∃ p, outcome = .ok p ∧ (p.value : ℤ) = max 0 (min i 100)) ∧
  ((∀ i, ¬ WritesInteger (Text.trim s.toList) i) →
    ∃ refusal, outcome = .error refusal ∧ refusal.field = "priority")

/-- **Priorities given as texts.**
* A text is taken at its integer exactly when it writes none but signed 64-bit words; a text of any
  other integer is refused, and `priority` is the field at fault.
* For every integer that a document can hold as a number, the number and the text of its digits ask
  for the same exactly when the integer is such a word. -/
theorem text_priority (fields : Fields) (s : String)
    (h : fields.get? "priority" = some (.string s)) :
    (TakenAtInteger s (ofFields fields) ↔
      ∀ i, WritesInteger (Text.trim s.toList) i → -(2 ^ 63) ≤ i ∧ i < 2 ^ 63) ∧
    (∀ i, WritesInteger (Text.trim s.toList) i → ¬ (-(2 ^ 63) ≤ i ∧ i < 2 ^ 63) →
      ∃ refusal, ofFields fields = .error refusal ∧ refusal.field = "priority") ∧
    ∀ (i : ℤ) (n : JsonNumber) (fields' : Fields), s = String.ofList (Number.intText i) →
      JsonNumber.ofDecimal? true ⟨decide (i < 0), i.natAbs, 0⟩ = some n →
      fields'.get? "priority" = some (.number n) →
      (ofFields fields = ofFields fields' ↔ -(2 ^ 63) ≤ i ∧ i < 2 ^ 63) := by
  have hbeyond : ∀ i, WritesInteger (Text.trim s.toList) i → ¬ (-(2 ^ 63) ≤ i ∧ i < 2 ^ 63) →
      ofFields fields = .error (notWhole (.string s)) := by
    intro i hwrites hword
    refine ofFields_other_text h ?_
    intro j hj
    rwa [hj.unique hwrites]
  refine ⟨⟨?_, ?_⟩, fun i hwrites hword => ⟨_, hbeyond i hwrites hword, rfl⟩, ?_⟩
  · rintro ⟨htaken, -⟩ i hwrites
    by_contra hword
    obtain ⟨p, hp, -⟩ := htaken i hwrites
    rw [hbeyond i hwrites hword] at hp
    cases hp
  · intro hwords
    constructor
    · intro i hwrites
      obtain ⟨hlo, hhi⟩ := hwords i hwrites
      exact ⟨clamped i, ofFields_text h hwrites hlo hhi, value_clamped i⟩
    · intro hnone
      exact ⟨_, ofFields_other_text h fun i hwrites => absurd hwrites (hnone i), rfl⟩
  · rintro i n fields' rfl hread hnumber
    have hwrites : WritesInteger (Text.trim (String.ofList (Number.intText i)).toList) i := by
      rw [String.toList_ofList, Text.trim_intText]
      exact Number.writesInteger_intText i
    rw [ofFields_number hnumber]
    by_cases hword : -(2 ^ 63) ≤ i ∧ i < 2 ^ 63
    · have hvalue : n.value = i := value_of_ofDecimal? ⟨hword.1, by omega⟩ hread
      rw [ofFields_text h hwrites hword.1 hword.2, hvalue, Number.towardZero_intCast]
      exact iff_of_true rfl hword
    · rw [hbeyond i hwrites hword]
      exact iff_of_false (fun heq => by cases heq) hword

/-- A text above the range of priorities, with a sign and blanks, and a text beside the number of
its digits. -/
theorem text_priority_of_signed_text :
    (∃ p, ofFields [("priority", .string " +0150 ")] = .ok p ∧ p.value = 100) ∧
      ofFields [("priority", .string "150")] = ofFields [("priority", .nat 150)] := by
  obtain ⟨htaken, -, -⟩ := text_priority [("priority", .string " +0150 ")] " +0150 " rfl
  obtain ⟨-, -, hsame⟩ := text_priority [("priority", .string "150")] "150" rfl
  have hwrites : WritesInteger (Text.trim " +0150 ".toList) 150 :=
    @WritesInteger.plus ['0', '1', '5', '0'] ⟨by decide, List.all_eq_true.mp rfl⟩
  have hwords : ∀ i, WritesInteger (Text.trim " +0150 ".toList) i → -(2 ^ 63) ≤ i ∧ i < 2 ^ 63 := by
    intro i hi
    rw [hi.unique hwrites]
    decide
  obtain ⟨p, hp, hvalue⟩ := (htaken.mpr hwords).1 150 hwrites
  have hone := hsame 150 (.ofNat 150 (by decide)) [("priority", .nat 150)] rfl rfl rfl
  exact ⟨⟨p, hp, Int.ofNat.inj hvalue⟩, hone.mpr (by decide)⟩

/-- The text of the first integer beyond signed 64-bit words is refused, although it writes an
integer, and although its number is moved into the range. -/
theorem text_beyond_words_refused :
    WritesInteger (Text.trim "9223372036854775808".toList) 9223372036854775808 ∧
      ¬ TakenAtInteger "9223372036854775808"
        (ofFields [("priority", .string "9223372036854775808")]) ∧
      ofFields [("priority", .nat 9223372036854775808)] = .ok (clamped 100) := by
  have hwrites : WritesInteger (Text.trim "9223372036854775808".toList) 9223372036854775808 :=
    @WritesInteger.bare "9223372036854775808".toList ⟨by decide, List.all_eq_true.mp rfl⟩
  refine ⟨hwrites, ?_, rfl⟩
  rintro ⟨htaken, -⟩
  obtain ⟨p, hp, -⟩ := htaken _ hwrites
  have hrefused : ofFields [("priority", .string "9223372036854775808")] =
      .error (notWhole (.string "9223372036854775808")) := rfl
  rw [hrefused] at hp
  cases hp

/-- **Priorities given as numbers.**
* A number of a document, whole or not, asks for its exact value, truncated toward zero and moved
  into the range from 0 to 100.  So a greater number asks for no lower priority, and numbers of
  equal value ask for the same, however they are held.
* Without a priority, or with null for one, a trigger asks for 50.  A truth value, an array and an
  object are refused, and `priority` is the field at fault.
* Whatever a trigger asks for lies in the range, and no other field has a say in it. -/
theorem number_priority (fields : Fields) :
    (∀ n, fields.get? "priority" = some (.number n) →
      ∃ p, ofFields fields = .ok p ∧ (p.value : ℤ) = max 0 (min (towardZero n.value) 100)) ∧
    (∀ (fields' : Fields) (n n' : JsonNumber) (p p' : Priority),
      fields.get? "priority" = some (.number n) → fields'.get? "priority" = some (.number n') →
      ofFields fields = .ok p → ofFields fields' = .ok p' →
      (n.value ≤ n'.value → p.value ≤ p'.value) ∧ (n.value = n'.value → p = p')) ∧
    (fields.get? "priority" = none ∨ fields.get? "priority" = some .null →
      ∃ p, ofFields fields = .ok p ∧ p.value = 50) ∧
    (∀ value, fields.get? "priority" = some value →
      (∃ b, value = .bool b) ∨ (∃ items, value = .array items) ∨
        (∃ members, value = .object members) →
      ∃ refusal, ofFields fields = .error refusal ∧ refusal.field = "priority") ∧
    (∀ p, ofFields fields = .ok p → p.value ≤ 100) ∧
    ∀ fields' : Fields, fields.get? "priority" = fields'.get? "priority" →
      ofFields fields = ofFields fields' := by
  refine ⟨?_, ?_, ?_, ?_, ?_, fun _ => ofFields_congr⟩
  · intro n h
    exact ⟨_, ofFields_number h, value_clamped _⟩
  · intro fields' n n' p p' h h' hp hp'
    obtain rfl := Except.ok.inj ((ofFields_number h).symm.trans hp)
    obtain rfl := Except.ok.inj ((ofFields_number h').symm.trans hp')
    constructor
    · intro hle
      exact clamped_mono (Number.towardZero_mono hle)
    · intro heq
      rw [heq]
  · intro h
    exact ⟨standard, ofFields_of_none h, rfl⟩
  · rintro value h hkind
    have hwhole : value ≠ .null ∧ wholeNumber? value = none := by
      rcases hkind with ⟨b, rfl⟩ | ⟨items, rfl⟩ | ⟨members, rfl⟩ <;>
        exact ⟨Json.noConfusion, rfl⟩
    exact ⟨_, ofFields_of_not_whole h hwhole.1 hwhole.2, rfl⟩
  · intro p _
    exact p.le_max

/-- The double 42.5 and the greatest word, a trigger without a priority, and a refused one. -/
theorem number_priority_of_mixed_numbers :
    ∃ x p p', (Number.Decimal.nearest ⟨false, 425, -1⟩).finite? = some x ∧
      ofFields [("priority", .number (.double x))] = .ok p ∧ p.value = 42 ∧
      ofFields [("cue", .null), ("priority", .nat 18446744073709551615)] = .ok p' ∧
      p.value ≤ p'.value ∧ p'.value ≤ 100 ∧
      (∃ q, ofFields [] = .ok q ∧ q.value = 50) ∧
      (∃ refusal, ofFields [("priority", .bool true)] = .error refusal ∧
        refusal.field = "priority") ∧
      ofFields [("cue", .null), ("priority", .number (.double x))] =
        ofFields [("priority", .number (.double x))] := by
  have hwhole : (Number.Decimal.nearest ⟨false, 425, -1⟩).finite?.map Number.Binary64.truncate =
      some 42 := by
    decide +kernel
  obtain ⟨x, hx, htruncate⟩ := Option.map_eq_some_iff.mp hwhole
  have hvalue : towardZero (JsonNumber.double x).value = 42 := x.truncate_eq.symm.trans htruncate
  obtain ⟨hnumber, hpair, -, -, -, hsame⟩ := number_priority [("priority", .number (.double x))]
  obtain ⟨hword, -, -, -, hrange, -⟩ :=
    number_priority [("cue", .null), ("priority", .nat 18446744073709551615)]
  obtain ⟨-, -, hnone, -⟩ := number_priority []
  obtain ⟨-, -, -, hkind, -⟩ := number_priority [("priority", .bool true)]
  obtain ⟨p, hp, hpvalue⟩ := hnumber (.double x) rfl
  obtain ⟨p', hp', -⟩ := hword (.ofNat 18446744073709551615 (by decide)) rfl
  have hle : (JsonNumber.double x).value ≤
      (JsonNumber.ofNat 18446744073709551615 (by decide)).value := by
    have hlt : x.value < 43 := by
      by_contra hge
      have hmono := Number.towardZero_mono (not_lt.mp hge)
      rw [show towardZero x.value = 42 from hvalue, show (43 : ℚ) = ((43 : ℤ) : ℚ) by norm_num,
        Number.towardZero_intCast] at hmono
      omega
    exact hlt.le.trans (by norm_num [JsonNumber.value, JsonNumber.ofNat])
  refine ⟨x, p, p', hx, hp, ?_, hp', ?_, hrange p' hp', hnone (Or.inl rfl), ?_, ?_⟩
  · rw [hvalue] at hpvalue
    exact Int.ofNat.inj hpvalue
  · exact (hpair _ (.double x) (.ofNat 18446744073709551615 (by decide)) p p' rfl rfl hp hp').1 hle
  · exact hkind (.bool true) rfl (Or.inl ⟨true, rfl⟩)
  · exact (hsame [("cue", .null), ("priority", .number (.double x))] rfl).symm

end Priority

end ShowControl
