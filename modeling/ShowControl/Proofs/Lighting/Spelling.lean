/-
Numbers and texts in payloads that carry lighting intent.

Some show editors write numbers and others write texts of numbers.  Where a payload has a number
that the lights depend on, the text of the number may stand in its place, with any blanks around it
(`Json.Respelled`): in the arguments of a level cue, in the universe, and at any place of raw
levels, each for itself (`Lighting.Respells`).  The reader makes no difference between the two
(`Json.Respelled.finiteNumber?_eq`), and everything else that it looks at is left alone, so the
handoff is the same (`Lighting.handoffFor_respelled`).
-/
import ShowControl.Lighting.Intent
import ShowControl.Proofs.Json.NumberText

namespace ShowControl

/-- The second value is the first one, or it is the text of the first one, with any blanks around
it, if that is a number. -/
inductive Json.Respelled : Json → Json → Prop where
  | same (j : Json) : Respelled j j
  | text (n : JsonNumber) (m : Margins) :
      Respelled (.number n) (.string (m.around (Json.number n).text))

/-- What a number is read as does not depend on the spelling. -/
lemma Json.Respelled.finiteNumber?_eq {j j' : Json} (h : Respelled j j') :
    j'.finiteNumber? = j.finiteNumber? := by
  cases h with
  | same => rfl
  | text n m => exact finiteNumber?_around m n

namespace Fields

/-- The fields have the same names in the same order, and their values are related, each in the way
of its name. -/
def Related (R : String → Json → Json → Prop) : Fields → Fields → Prop :=
  List.Forall₂ fun field field' => field'.1 = field.1 ∧ R field.1 field.2 field'.2

variable {R : String → Json → Json → Prop} {fields fields' : Fields}

/-- What is found under a name is related in the way of this name. -/
lemma Related.get? (h : Related R fields fields') (name : String) :
    Option.Rel (R name) (fields.get? name) (fields'.get? name) := by
  induction h with
  | nil => exact .none
  | cons hfield _ ih =>
    obtain ⟨hname, hvalue⟩ := hfield
    rw [Fields.get?, Fields.get?, List.lookup_cons, List.lookup_cons, hname]
    split
    case h_1 heq => exact .some (by rwa [eq_of_beq heq])
    case h_2 => exact ih

/-- What a reader makes of the value under a name is the same if it does not tell related values
apart. -/
lemma Related.bind_get? {α : Type} (h : Related R fields fields') (name : String)
    {f : Json → Option α} (hf : ∀ {j j'}, R name j j' → f j' = f j) :
    (fields'.get? name).bind f = (fields.get? name).bind f := by
  have hvalues := h.get? name
  generalize fields.get? name = value, fields'.get? name = value' at hvalues ⊢
  cases hvalues with
  | none => rfl
  | some hvalue => exact hf hvalue

end Fields

namespace Lighting

open Json (Respelled)

/-- The arguments of a level cue that are numbers. -/
def numericArguments : List String := ["start", "count", "level", "universe"]

/-- How an argument of a level cue may be respelled, by its name. -/
inductive RespellsArgument (name : String) : Json → Json → Prop where
  | same (j : Json) : RespellsArgument name j j
  | number {j j' : Json} (hname : name ∈ numericArguments) (h : Respelled j j') :
      RespellsArgument name j j'

/-- How a field of a payload may be respelled, by its name. -/
inductive RespellsField (name : String) : Json → Json → Prop where
  | same (j : Json) : RespellsField name j j
  | arguments {args args' : Fields} (hname : name = "args")
      (h : Fields.Related RespellsArgument args args') :
      RespellsField name (.object args) (.object args')
  | universeNumber {j j' : Json} (hname : name = "universe") (h : Respelled j j') :
      RespellsField name j j'
  | levels {items items' : List Json} (hname : name = "levels")
      (h : List.Forall₂ Respelled items items') :
      RespellsField name (.array items) (.array items')

/-- The second payload is the first one with texts in place of some of the numbers that the lights
depend on. -/
def Respells : Fields → Fields → Prop := Fields.Related RespellsField

lemma RespellsArgument.finiteNumber?_eq {name : String} {j j' : Json}
    (h : RespellsArgument name j j') : j'.finiteNumber? = j.finiteNumber? := by
  cases h with
  | same => rfl
  | number _ h => exact h.finiteNumber?_eq

/-- A level cue of respelled arguments is read alike. -/
lemma ofLevelCue_respelled {args args' : Fields}
    (h : Fields.Related RespellsArgument args args') :
    ofLevelCue (.object args') = ofLevelCue (.object args) := by
  have hnumber (name : String) :
      ((Json.object args').field? name).bind Json.finiteNumber? =
        ((Json.object args).field? name).bind Json.finiteNumber? :=
    h.bind_get? name RespellsArgument.finiteNumber?_eq
  have hword (name : String) :
      wordUnder? (.object args') name = wordUnder? (.object args) name := by
    rw [wordUnder?, hnumber, wordUnder?]
  -- the destination is no number, so it is left alone
  have hdest : ((Json.object args').field? "dest").bind Json.text? =
      ((Json.object args).field? "dest").bind Json.text? := by
    refine h.bind_get? "dest" fun hdest => ?_
    cases hdest with
    | same => rfl
    | number hname _ => exact absurd hname (by decide)
  simp only [ofLevelCue, hword, hnumber, hdest]

namespace RespellsField

variable {name : String} {j j' : Json}

/-- Fields that the lights read no number from are left alone. -/
lemma eq_of_not_mem (h : RespellsField name j j') (hname : name ∉ ["args", "universe", "levels"]) :
    j' = j := by
  cases h with
  | same => rfl
  | arguments heq _ => exact absurd (heq ▸ hname) (by decide)
  | universeNumber heq _ => exact absurd (heq ▸ hname) (by decide)
  | levels heq _ => exact absurd (heq ▸ hname) (by decide)

lemma ofLevelCue_eq (h : RespellsField "args" j j') : ofLevelCue j' = ofLevelCue j := by
  cases h with
  | same => rfl
  | arguments _ h => exact ofLevelCue_respelled h
  | universeNumber heq _ => exact absurd heq (by decide)
  | levels heq _ => exact absurd heq (by decide)

lemma finiteNumber?_eq (h : RespellsField "universe" j j') :
    j'.finiteNumber? = j.finiteNumber? := by
  cases h with
  | same => rfl
  | arguments heq _ => exact absurd heq (by decide)
  | universeNumber _ h => exact h.finiteNumber?_eq
  | levels heq _ => exact absurd heq (by decide)

/-- A list of levels has as many items, each of them the same or respelled. -/
lemma items?_related (h : RespellsField "levels" j j') :
    Option.Rel (List.Forall₂ Respelled) j.items? j'.items? := by
  cases h with
  | same =>
    cases j with
    | array items => exact .some (List.forall₂_same.mpr fun item _ => .same item)
    | _ => exact .none
  | arguments heq _ => exact absurd heq (by decide)
  | universeNumber heq _ => exact absurd heq (by decide)
  | levels _ h => exact .some h

end RespellsField

variable {payload payload' : Fields}

/-- Raw levels are read alike. -/
lemma ofRawLevels_respelled (h : Respells payload payload') {items items' : List Json}
    (hitems : List.Forall₂ Respelled items items') :
    ofRawLevels payload' items' = ofRawLevels payload items := by
  have huniverse : ((Json.object payload').field? "universe").bind Json.finiteNumber? =
      ((Json.object payload).field? "universe").bind Json.finiteNumber? :=
    h.bind_get? "universe" RespellsField.finiteNumber?_eq
  have hdest : (payload'.get? "dest").bind Json.text? = (payload.get? "dest").bind Json.text? :=
    h.bind_get? "dest" fun hdest => by rw [hdest.eq_of_not_mem (by decide)]
  have hlevels : (items'.map fun j => Number.Extended.finite (j.finiteNumber?.getD .zero)) =
      items.map fun j => .finite (j.finiteNumber?.getD .zero) := by
    induction hitems with
    | nil => rfl
    | cons hitem _ ih => rw [List.map_cons, List.map_cons, ih, hitem.finiteNumber?_eq]
  simp only [ofRawLevels, wordUnder?, huniverse, hdest, hlevels]

/-- **Numbers and their texts.**  A payload asks for the same handoff, or for none, whichever of the
numbers that the lights depend on are given as texts: the start, the count, the level and the
universe of a level cue, the universe of raw levels and each of the raw levels. -/
theorem handoffFor_respelled (h : Respells payload payload') :
    handoffFor payload' = handoffFor payload := by
  have hid : (payload'.get? "id").bind Json.text? = (payload.get? "id").bind Json.text? :=
    h.bind_get? "id" fun hid => by rw [hid.eq_of_not_mem (by decide)]
  have hcue : ofLevelCue ((payload'.get? "args").getD .null) =
      ofLevelCue ((payload.get? "args").getD .null) := by
    have hargs := h.get? "args"
    generalize payload.get? "args" = args, payload'.get? "args" = args' at hargs ⊢
    cases hargs with
    | none => rfl
    | some hargs => exact hargs.ofLevelCue_eq
  have hraw : ((payload'.get? "levels").bind Json.items?).bind (ofRawLevels payload') =
      ((payload.get? "levels").bind Json.items?).bind (ofRawLevels payload) := by
    have hlevels := h.get? "levels"
    generalize payload.get? "levels" = levels, payload'.get? "levels" = levels' at hlevels ⊢
    cases hlevels with
    | none => rfl
    | @some levels levels' hlevels =>
      have hitems := hlevels.items?_related
      rw [Option.bind_some, Option.bind_some]
      generalize levels.items? = items, levels'.items? = items' at hitems ⊢
      cases hitems with
      | none => rfl
      | some hitems => exact ofRawLevels_respelled h hitems
  -- raw levels are looked for where there is no level cue
  have hshape (payload : Fields) : handoffFor payload =
      if (payload.get? "id").bind Json.text? = some levelCueId then
        ofLevelCue ((payload.get? "args").getD .null)
      else ((payload.get? "levels").bind Json.items?).bind (ofRawLevels payload) := by
    rw [handoffFor]
    cases (payload.get? "levels").bind Json.items? <;> rfl
  rw [hshape, hshape, hid, hcue, hraw]

/-- A level cue with its level and its universe as texts, and raw levels with a negative zero and a
whole number that no double holds. -/
theorem handoffFor_respelled_of_two_shapes :
    let half : Number.Binary64 := ⟨false, Number.one / 2, by decide +kernel⟩
    let negativeZero : Number.Binary64 := ⟨true, 0, Number.Binary64.representable_zero⟩
    handoffFor [("id", .string "lighting.level"),
        ("args", .object [("level", .string " 0.5"), ("universe", .string "7")])] =
      handoffFor [("id", .string "lighting.level"),
        ("args", .object [("level", .number (.double half)), ("universe", .nat 7)])] ∧
    handoffFor [("levels", .array [.string "-0.0", .string "9007199254740993 ", .nat 7])] =
      handoffFor [("levels", .array
        [.number (.double negativeZero), .nat 9007199254740993, .nat 7])] := by
  intro half negativeZero
  have hspelled {n : JsonNumber} (front back : List Char) {s : String}
      (hfront : front.all Text.isBlank = true) (hback : back.all Text.isBlank = true)
      (h : String.ofList (front ++ ((Json.number n).text.toList ++ back)) = s) :
      Respelled (.number n) (.string s) :=
    h ▸ .text n ⟨front, back, List.all_eq_true.mp hfront, List.all_eq_true.mp hback⟩
  have hhalf : Respelled (.number (.double half)) (.string " 0.5") :=
    hspelled [' '] [] rfl rfl (by decide +kernel)
  have hseven : Respelled (.nat 7) (.string "7") :=
    hspelled [] [] rfl rfl (by decide +kernel)
  have hzero : Respelled (.number (.double negativeZero)) (.string "-0.0") :=
    hspelled [] [] rfl rfl (by decide +kernel)
  have hlong : Respelled (.nat 9007199254740993) (.string "9007199254740993 ") :=
    hspelled [] [' '] rfl rfl (by decide +kernel)
  constructor
  · have hargs : Fields.Related RespellsArgument
        [("level", .number (.double half)), ("universe", .nat 7)]
        [("level", .string " 0.5"), ("universe", .string "7")] :=
      .cons ⟨rfl, .number (by decide) hhalf⟩ (.cons ⟨rfl, .number (by decide) hseven⟩ .nil)
    exact handoffFor_respelled (.cons ⟨rfl, .same _⟩ (.cons ⟨rfl, .arguments rfl hargs⟩ .nil))
  · have hlevels : List.Forall₂ Respelled
        [.number (.double negativeZero), .nat 9007199254740993, .nat 7]
        [.string "-0.0", .string "9007199254740993 ", .nat 7] :=
      .cons hzero (.cons hlong (.cons (.same _) .nil))
    exact handoffFor_respelled (.cons ⟨rfl, .levels rfl hlevels⟩ .nil)

end Lighting

end ShowControl
