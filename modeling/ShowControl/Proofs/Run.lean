/-
Runs of a machine that answers one input at a time.

A machine is a function that takes a state and an input to an output and the next state.  This file
sets up what a run of it is: the state after a list of inputs, and the outputs on the way.
-/
import Mathlib.Data.List.Basic
import Mathlib.Tactic.Lemma

namespace ShowControl.Run

variable {S I O : Type} (next : S → I → O × S)

/-- The state after a list of inputs. -/
def after (s : S) (inputs : List I) : S := inputs.foldl (fun s i => (next s i).2) s

/-- The outputs on the way, one for each input. -/
def outputs : S → List I → List O
  | _, [] => []
  | s, i :: inputs => (next s i).1 :: outputs (next s i).2 inputs

@[simp] lemma after_nil (s : S) : after next s [] = s := rfl

@[simp] lemma after_cons (s : S) (i : I) (inputs : List I) :
    after next s (i :: inputs) = after next (next s i).2 inputs := rfl

@[simp] lemma outputs_nil (s : S) : outputs next s [] = [] := rfl

@[simp] lemma outputs_cons (s : S) (i : I) (inputs : List I) :
    outputs next s (i :: inputs) = (next s i).1 :: outputs next (next s i).2 inputs := rfl

@[simp] lemma length_outputs (s : S) (inputs : List I) :
    (outputs next s inputs).length = inputs.length := by
  induction inputs generalizing s with
  | nil => rfl
  | cons i inputs ih => simp [ih]

lemma after_append (s : S) (front back : List I) :
    after next s (front ++ back) = after next (after next s front) back :=
  List.foldl_append

/-- One more input is one more step. -/
lemma after_concat (s : S) (inputs : List I) (i : I) :
    after next s (inputs ++ [i]) = (next (after next s inputs) i).2 := by
  rw [after_append, after_cons, after_nil]

lemma outputs_append (s : S) (front back : List I) :
    outputs next s (front ++ back) =
      outputs next s front ++ outputs next (after next s front) back := by
  induction front generalizing s with
  | nil => rfl
  | cons i front ih => simp [ih]

/-- One more input gives one more output. -/
lemma outputs_concat (s : S) (inputs : List I) (i : I) :
    outputs next s (inputs ++ [i]) =
      outputs next s inputs ++ [(next (after next s inputs) i).1] := by
  rw [outputs_append, outputs_cons, outputs_nil]

/-- The step that a run takes at a place. -/
lemma after_take_succ (s : S) {inputs : List I} {k : ℕ} {i : I} (h : inputs[k]? = some i) :
    after next s (inputs.take (k + 1)) = (next (after next s (inputs.take k)) i).2 := by
  rw [List.take_add_one, h, Option.toList_some, after_concat]

/-- The output at a place is that of the step that the run takes there. -/
lemma getElem?_outputs (s : S) (inputs : List I) (k : ℕ) :
    (outputs next s inputs)[k]? =
      inputs[k]?.map fun i => (next (after next s (inputs.take k)) i).1 := by
  induction inputs generalizing s k with
  | nil => rfl
  | cons i inputs ih =>
    cases k with
    | zero => rfl
    | succ k => exact ih (next s i).2 k

end ShowControl.Run
