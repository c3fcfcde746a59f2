/-
Priorities.

A priority is a number from 0 to 100, 50 unless a trigger says otherwise.  A trigger may give it
as a number or as the text of a whole number; what lies outside the range is moved to its nearer
end, and what is no number is refused.
-/
import ShowControl.Fault

namespace ShowControl

/-- How urgent a cue is, from 0 to 100. -/
structure Priority where
  value : Nat
  le_max : value ≤ 100 := by decide
deriving DecidableEq

namespace Priority

/-- The priority of a trigger that names none. -/
def standard : Priority := { value := 50 }

instance : Inhabited Priority := ⟨standard⟩

/-- The nearest priority to a whole number. -/
def clamped (i : Int) : Priority := ⟨(min i 100).toNat, by omega⟩

/-- The priority of that number, when it is in range. -/
def ofInt? (i : Int) : Option Priority :=
  if h : 0 ≤ i ∧ i ≤ 100 then some ⟨i.toNat, by omega⟩ else none

/-- The text of a priority. -/
def text (p : Priority) : String := String.ofList (Number.natText p.value)

/-- A priority in an answer. -/
def json (p : Priority) : Json := .nat p.value (by have := p.le_max; omega)

/-- The whole number that a value stands for, as a signed 64-bit word: numbers are truncated toward
zero and moved into the range, texts must hold a number of the range. -/
def wholeNumber? : Json → Option Int
  | .number (.whole i _) => some (Number.saturate i)
  | .number (.double x) => some (Number.saturate x.truncate)
  | .string s => (Number.readInteger .signed64 (Text.trim s.toList)).toOption
  | _ => none

/-- The refusal of a value that stands for no whole number. -/
def notWhole (value : Json) : Refusal where
  field := "priority"
  expected := "integer in [0, 100]"
  message := "cannot interpret " ++ value.text ++ " as an integer"

/-- The priority that a trigger asks for. -/
def ofFields (fields : Fields) : Except Refusal Priority :=
  match fields.get? "priority" with
  | none | some .null => .ok standard
  | some value =>
    match wholeNumber? value with
    | some i => .ok (clamped i)
    | none => .error (notWhole value)

end Priority

end ShowControl
