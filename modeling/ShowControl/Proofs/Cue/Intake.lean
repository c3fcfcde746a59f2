/-
What a submitted trigger document comes to.

`Intake.submit_cases` is the case analysis that everything about triggers starts from: either the
document passes every check (`Intake.Passes`) and its cue is taken in, or it is refused with the
fault of the first check that it fails (`Intake.FirstFault`) and the queue stays as it was.

The validation service is asked about a document that passes the first two checks
(`Intake.checked_of_asksFor`), and what it would say of any other one does not matter
(`Intake.submit_congr`).
-/
import Mathlib.Tactic.Lemma
import ShowControl.Cue.Intake

namespace ShowControl.Intake

/-- A document passes every check: it is an object with this payload, it asks for this priority,
and the validation service, where there is one, accepts it. -/
structure Passes (check : Option Check) (document : Json) (payload : Fields)
    (priority : Priority) : Prop where
  isObject : document = .object payload
  asksFor : Priority.ofFields payload = .ok priority
  approved : ∀ judge, check = some judge → judge payload = .ok ()

/-- The fault of the first check that a document fails. -/
inductive FirstFault (check : Option Check) : Json → Fault → Prop where
  /-- The document is no object; the field at fault is the body. -/
  | noObject {document : Json} (h : ∀ payload, document ≠ .object payload) :
      FirstFault check document (.refused (notObject document))
  /-- The priority cannot be understood. -/
  | noPriority {payload : Fields} {refusal : Refusal}
      (h : Priority.ofFields payload = .error refusal) :
      FirstFault check (.object payload) (.refused refusal)
  /-- The validation service does not accept the document; the fault is its own. -/
  | notApproved {payload : Fields} {priority : Priority} {judge : Check} {fault : Fault}
      (asksFor : Priority.ofFields payload = .ok priority) (asked : check = some judge)
      (h : judge payload = .error fault) :
      FirstFault check (.object payload) fault

section Submissions

variable (check : Option Check) (r : Registry) (id : CueId) (now : Instant) (document : Json)

/-- A document is taken in after every check, or it is refused by the first check that it fails and
the queue stays as it was. -/
lemma submit_cases :
    (∃ payload priority, Passes check document payload priority ∧
      submit check r id now document =
        accept r id now priority payload (if check.isSome then [payload] else [])) ∨
    ∃ fault checked, FirstFault check document fault ∧
      submit check r id now document = ⟨.error fault, r, checked⟩ := by
  cases document with
  | object payload =>
    cases hprio : Priority.ofFields payload with
    | error refusal =>
      exact Or.inr ⟨.refused refusal, [], .noPriority hprio, by simp only [submit, hprio]⟩
    | ok priority =>
      cases check with
      | none =>
        refine Or.inl ⟨payload, priority, ⟨rfl, hprio, ?_⟩, by simp only [submit, hprio]; rfl⟩
        intro judge hjudge
        cases hjudge
      | some judge =>
        cases hjudge : judge payload with
        | error fault =>
          refine Or.inr ⟨fault, [payload], .notApproved hprio rfl hjudge, ?_⟩
          simp only [submit, hprio, hjudge]
        | ok =>
          refine Or.inl ⟨payload, priority, ⟨rfl, hprio, ?_⟩, ?_⟩
          · rintro _ ⟨⟩
            exact hjudge
          · simp only [submit, hprio, hjudge]
            rfl
  | null | bool b | number n | string s | array items =>
    exact Or.inr ⟨_, [], .noObject (by simp), rfl⟩

variable {check r id now document}

/-- The validation service, where there is one, is asked once about a document that passes the first
two checks. -/
lemma checked_of_asksFor {payload : Fields} {priority : Priority}
    (hprio : Priority.ofFields payload = .ok priority) :
    (submit check r id now (.object payload)).checked = if check.isSome then [payload] else [] := by
  cases check with
  | none => simp [submit, hprio, accept]
  | some judge =>
    cases hjudge : judge payload with
    | error fault => simp [submit, hprio, hjudge]
    | ok => simp [submit, hprio, hjudge, accept]

/-- The validation service has a say through the documents that it is asked about and in no other
way. -/
lemma submit_congr {judge judge' : Check}
    (h : ∀ payload ∈ (submit (some judge) r id now document).checked,
      judge' payload = judge payload) :
    submit (some judge') r id now document = submit (some judge) r id now document := by
  cases document with
  | object payload =>
    cases hprio : Priority.ofFields payload with
    | error refusal => simp only [submit, hprio]
    | ok priority =>
      have hjudge : judge' payload = judge payload := h payload (by simp [checked_of_asksFor hprio])
      simp only [submit, hprio, hjudge]
  | null | bool b | number n | string s | array items => rfl

/-- A judge that is not asked has no say. -/
lemma submit_of_not_checked {judge : Check}
    (h : (submit (some judge) r id now document).checked = []) (judge' : Check) :
    submit (some judge') r id now document = submit (some judge) r id now document :=
  submit_congr (by simp [h])

end Submissions

end ShowControl.Intake
