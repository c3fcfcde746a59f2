/-
The text of a JSON value, part by part.

Writing onto a text never looks at what is there already (`emit_append`), so the text of a container
is put together from the texts of what it holds (`chars_array`, `chars_object`).
-/
import Mathlib.Data.Int.Notation
import Mathlib.Data.Nat.Notation
import Mathlib.Tactic.Lemma
import ShowControl.Json.Text

namespace ShowControl.Json

mutual

theorem emit_append : ∀ (j : Json) (a b : List Char), emit j (a ++ b) = emit j a ++ b
  | .null, _, _ | .bool true, _, _ | .bool false, _, _ | .array [], _, _ | .object [], _, _ => rfl
  | .number n, a, b => by simp only [emit, List.reverseAux_eq, List.append_assoc]
  | .string s, a, b => by simp only [emit, List.reverseAux_eq, List.append_assoc]
  | .array (x :: xs), a, b => by
    simp only [emit]
    rw [← List.cons_append, emit_append x, emitItems_append xs, List.cons_append]
  | .object ((k, v) :: fs), a, b => by
    have hfront : ':' :: ((quoted k.toList).reverse ++ '\x7b' :: (a ++ b)) =
        ':' :: ((quoted k.toList).reverse ++ '\x7b' :: a) ++ b := by simp
    simp only [emit, List.reverseAux_eq]
    rw [hfront, emit_append v, emitFields_append fs, List.cons_append]

theorem emitItems_append :
    ∀ (xs : List Json) (a b : List Char), emitItems xs (a ++ b) = emitItems xs a ++ b
  | [], _, _ => rfl
  | x :: xs, a, b => by
    simp only [emitItems]
    rw [← List.cons_append, emit_append x, emitItems_append xs]

theorem emitFields_append :
    ∀ (fs : List (String × Json)) (a b : List Char), emitFields fs (a ++ b) = emitFields fs a ++ b
  | [], _, _ => rfl
  | (k, v) :: fs, a, b => by
    have hfront : ':' :: ((quoted k.toList).reverse ++ ',' :: (a ++ b)) =
        ':' :: ((quoted k.toList).reverse ++ ',' :: a) ++ b := by simp
    simp only [emitFields, List.reverseAux_eq]
    rw [hfront, emit_append v, emitFields_append fs]

end

/-- A value is written after what is there already. -/
lemma emit_eq (j : Json) (acc : List Char) : emit j acc = j.chars.reverse ++ acc := by
  rw [chars, List.reverse_reverse, ← emit_append, List.nil_append]

/-- The texts of some items, a comma before each. -/
def itemChars (xs : List Json) : List Char := xs.flatMap fun x => ',' :: x.chars

/-- The text of a field. -/
def fieldChars (f : String × Json) : List Char := quoted f.1.toList ++ ':' :: f.2.chars

lemma emitItems_eq (xs : List Json) (acc : List Char) :
    emitItems xs acc = (itemChars xs).reverse ++ acc := by
  induction xs generalizing acc with
  | nil => rfl
  | cons x xs ih => simp [emitItems, ih, emit_eq, itemChars]

lemma emitFields_eq (fs : List (String × Json)) (acc : List Char) :
    emitFields fs acc = (fs.flatMap fun f => ',' :: fieldChars f).reverse ++ acc := by
  induction fs generalizing acc with
  | nil => rfl
  | cons f fs ih => simp [emitFields, ih, emit_eq, fieldChars, List.reverseAux_eq]

@[simp] lemma chars_number (n : JsonNumber) : (number n).chars = n.chars := by
  simp [chars, emit, List.reverseAux_eq]

@[simp] lemma chars_string (s : String) : (string s).chars = quoted s.toList := by
  simp [chars, emit, List.reverseAux_eq]

/-- The text of an array with items. -/
lemma chars_array_cons (x : Json) (xs : List Json) :
    (array (x :: xs)).chars = '[' :: (x.chars ++ (itemChars xs ++ [']'])) := by
  rw [chars, emit, emitItems_eq, emit_eq]
  simp

/-- The text of an object with fields. -/
lemma chars_object_cons (f : String × Json) (fs : List (String × Json)) :
    (object (f :: fs)).chars =
      '\x7b' :: (fieldChars f ++ ((fs.flatMap fun g => ',' :: fieldChars g) ++ ['\x7d'])) := by
  rw [chars, emit, emitFields_eq, emit_eq]
  simp [fieldChars, List.reverseAux_eq]

end ShowControl.Json
