/-
Values written and read back.

A reader keeps the fields of an object in the order of their names, each name once, and does not
follow containers deeper than a given depth.  So there are values that it never hands out, and those
that it can hand out are `Kept`.  Each of them is read back from its text (`Json.read?_chars`).
They are therefore just the values that are read from some text (`Json.exists_read?_iff`), and what
has been read once is read again from what is written of it (`Json.read?_chars_of_read?`).
-/
import ShowControl.Proofs.Json.Fields
import ShowControl.Proofs.Json.ReadBack

namespace ShowControl

/-- A decimal number that is a word is read as this word, with the sign that the word has. -/
lemma JsonNumber.ofDecimal?_whole (i : ℤ) (isWord : IsWord i) :
    ofDecimal? true ⟨decide (i < 0), i.natAbs, 0⟩ = some (.whole i isWord) := by
  have hvalue : (if decide (i < 0) = true then -(i.natAbs : ℤ) else i.natAbs) = i := by
    simp only [decide_eq_true_eq]
    omega
  -- only the negative zero would be a double
  have hsigned : (decide (i < 0) && i.natAbs == 0) = false := by
    by_cases hzero : i = 0
    · subst hzero
      rfl
    · simp [hzero]
  simp only [ofDecimal?, hvalue, isWord, dite_true, hsigned]
  rfl

/-- A decimal number with a point or a power is read as the double nearest to it. -/
lemma JsonNumber.ofDecimal?_double {d : Number.Decimal} {x : Number.Binary64}
    (h : d.nearest = .finite x) : ofDecimal? false d = some (.double x) := by
  simp [ofDecimal?, h, Number.Extended.finite?]

namespace Json

/-- The value is one that a reader can keep, with its containers nested at most `depth` deep. -/
inductive Kept : ℕ → Json → Prop where
  | null {depth : ℕ} : Kept depth .null
  | bool {depth : ℕ} (b : Bool) : Kept depth (.bool b)
  | number {depth : ℕ} (n : JsonNumber) : Kept depth (.number n)
  | string {depth : ℕ} (s : String) : Kept depth (.string s)
  | array {depth : ℕ} {items : List Json} (h : ∀ x ∈ items, Kept depth x) :
      Kept (depth + 1) (.array items)
  | object {depth : ℕ} {fields : Fields} (hsorted : fields.Sorted)
      (h : ∀ f ∈ fields, Kept depth f.2) : Kept (depth + 1) (.object fields)

namespace Tree

/-! ### From a value to its text and back -/

/-- The document is read from the text of the value and has this value. -/
def Denotes (depth : ℕ) (j : Json) (t : Tree) : Prop := Reads j.chars t ∧ t.value? depth = some j

/-- The member is read from the text of the field and has its name and its value. -/
def DenotesField (depth : ℕ) (f : String × Json) (m : List Piece × Tree) : Prop :=
  m.1 = nameOf f.1 ∧ Denotes depth f.2 m.2

lemma exists_forall₂ {α β : Type} {R : α → β → Prop} {xs : List α} (h : ∀ x ∈ xs, ∃ y, R x y) :
    ∃ ys, List.Forall₂ R xs ys := by
  induction xs with
  | nil => exact ⟨[], .nil⟩
  | cons x xs ih =>
    obtain ⟨y, hy⟩ := h x List.mem_cons_self
    obtain ⟨ys, hys⟩ := ih fun x hx => h x (List.mem_cons_of_mem _ hx)
    exact ⟨y :: ys, .cons hy hys⟩

lemma exists_denotes_number (depth : ℕ) (n : JsonNumber) : ∃ t, Denotes depth (.number n) t := by
  cases n with
  | whole i isWord =>
    refine ⟨.number true ⟨decide (i < 0), i.natAbs, 0⟩, ?_, ?_⟩
    · rw [chars_number]
      exact reads_intText i
    · rw [value?, JsonNumber.ofDecimal?_whole i isWord]
      rfl
  | double x =>
    obtain ⟨d, hreads, hnearest⟩ := exists_reads_write JsonNumber.layout x
    refine ⟨.number false d, ?_, ?_⟩
    · rw [chars_number]
      exact hreads
    · rw [value?, JsonNumber.ofDecimal?_double hnearest]
      rfl

lemma values?_eq {depth : ℕ} {items : List Json} {ts : List Tree}
    (h : List.Forall₂ (Denotes depth) items ts) (acc : List Json) :
    values? depth ts acc = some (acc.reverse ++ items) := by
  induction h generalizing acc with
  | nil => rw [values?, List.append_nil]
  | cons hvalue _ ih => simp [values?, hvalue.2, ih]

lemma memberValues?_eq {depth : ℕ} {fields : Fields} {ms : List (List Piece × Tree)}
    (h : List.Forall₂ (DenotesField depth) fields ms) (acc : List (String × Json)) :
    memberValues? depth ms acc = some (acc.reverse ++ fields) := by
  induction h generalizing acc with
  | nil => rw [memberValues?, List.append_nil]
  | @cons f m _ _ hvalue _ ih =>
    have hname : piecesText? m.1 = some f.1 := by
      rw [hvalue.1]
      exact piecesText?_pieceOf f.1
    simp [memberValues?, hname, hvalue.2.2, ih]

/-- The text of a value that can be kept is read as a document of this value. -/
lemma exists_denotes {depth : ℕ} {j : Json} (h : Kept depth j) : ∃ t, Denotes depth j t := by
  induction h with
  | null => exact ⟨.null, reads_null, by rw [value?]⟩
  | bool b => exact ⟨.bool b, reads_bool b, by rw [value?]⟩
  | number n => exact exists_denotes_number _ n
  | string s =>
    refine ⟨.string (s.toList.map pieceOf), ?_, ?_⟩
    · rw [chars_string]
      exact reads_quoted s
    · rw [value?, piecesText?_pieceOf]
      rfl
  | array _ ih =>
    obtain ⟨ts, hts⟩ := exists_forall₂ ih
    refine ⟨.array ts, reads_array (hts.imp fun _ _ h => h.1), ?_⟩
    rw [value?, values?_eq hts]
    rfl
  | @object depth fields hsorted _ ih =>
    have hfields : ∀ f ∈ fields, ∃ m, DenotesField depth f m := by
      intro f hf
      obtain ⟨t, ht⟩ := ih f hf
      exact ⟨(nameOf f.1, t), rfl, ht⟩
    obtain ⟨ms, hms⟩ := exists_forall₂ hfields
    refine ⟨.object ms, reads_object (hms.imp fun _ _ h => ⟨h.1, h.2.1⟩), ?_⟩
    rw [value?, memberValues?_eq hms, List.reverse_nil, List.nil_append, Option.map_some,
      hsorted.ofMembers_eq]

/-! ### The values of documents -/

mutual

/-- The value of a document is one that can be kept. -/
theorem kept_of_value? : ∀ {depth : ℕ} {t : Tree} {j : Json},
    t.value? depth = some j → Kept depth j
  | _, .null, _, h => by
    cases h
    exact .null
  | _, .bool b, _, h => by
    cases h
    exact .bool b
  | _, .number isWhole d, j, h => by
    rw [value?, Option.map_eq_some_iff] at h
    obtain ⟨n, -, rfl⟩ := h
    exact .number n
  | _, .string pieces, j, h => by
    rw [value?, Option.map_eq_some_iff] at h
    obtain ⟨s, -, rfl⟩ := h
    exact .string s
  | 0, .array _, _, h | 0, .object _, _, h => by cases h
  | depth + 1, .array items, j, h => by
    rw [value?, Option.map_eq_some_iff] at h
    obtain ⟨js, hjs, rfl⟩ := h
    exact .array (kept_of_values? hjs (by simp))
  | depth + 1, .object members, j, h => by
    rw [value?, Option.map_eq_some_iff] at h
    obtain ⟨fields, hfields, rfl⟩ := h
    exact .object (Fields.sorted_ofMembers fields) fun f hf =>
      kept_of_memberValues? hfields (by simp) f (Fields.ofMembers_subset fields hf)

theorem kept_of_values? : ∀ {depth : ℕ} {ts : List Tree} {acc js : List Json},
    values? depth ts acc = some js → (∀ x ∈ acc, Kept depth x) → ∀ x ∈ js, Kept depth x
  | _, [], acc, js, h, hacc => by
    rw [values?, Option.some.injEq] at h
    subst h
    simpa using hacc
  | depth, t :: ts, acc, js, h, hacc => by
    rw [values?] at h
    split at h
    case h_1 j hj => exact kept_of_values? h (List.forall_mem_cons.mpr ⟨kept_of_value? hj, hacc⟩)
    case h_2 => cases h

theorem kept_of_memberValues? : ∀ {depth : ℕ} {ms : List (List Piece × Tree)}
    {acc fields : List (String × Json)}, memberValues? depth ms acc = some fields →
      (∀ f ∈ acc, Kept depth f.2) → ∀ f ∈ fields, Kept depth f.2
  | _, [], acc, fields, h, hacc => by
    rw [memberValues?, Option.some.injEq] at h
    subst h
    simpa using hacc
  | depth, (name, t) :: ms, acc, fields, h, hacc => by
    rw [memberValues?] at h
    split at h
    case h_1 k j hk hj =>
      exact kept_of_memberValues? h (List.forall_mem_cons.mpr ⟨kept_of_value? hj, hacc⟩)
    case h_2 => cases h

end

end Tree

/-- **Values are read back.**  The text of a value that a reader can keep is read as the value. -/
theorem read?_chars {j : Json} (h : Kept maxDepth j) : read? j.chars = some j := by
  obtain ⟨t, hreads, hvalue⟩ := Tree.exists_denotes h
  rw [read?, hreads.readAll?, Option.bind_some, hvalue]

/-- The values that are read from some text are those that a reader can keep. -/
theorem exists_read?_iff {j : Json} : (∃ s, read? s = some j) ↔ Kept maxDepth j := by
  constructor
  · rintro ⟨s, hs⟩
    obtain ⟨t, -, hvalue⟩ := Option.bind_eq_some_iff.mp hs
    exact Tree.kept_of_value? hvalue
  · intro h
    exact ⟨j.chars, read?_chars h⟩

/-- What has been read once is read again from what is written of it. -/
theorem read?_chars_of_read? {s : List Char} {j : Json} (h : read? s = some j) :
    read? j.chars = some j :=
  read?_chars (exists_read?_iff.mp ⟨s, h⟩)

end Json

end ShowControl
