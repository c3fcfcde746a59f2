/-
Handing in a handoff as a payload.

The written form of a handoff has the shape of raw levels: a universe, a list of levels and perhaps
a destination, and no id that could make a level cue of it.  Its numbers are small enough for a
double to hold them as they are, so a well-formed handoff, handed in as a payload, asks for itself
(`Handoff.WellFormed.handoffFor_members`).  What a payload asks for is well formed, so it can be
handed in any number of times (`Lighting.handoffFor_resubmitted`).
-/
import ShowControl.Proofs.Json.Fields
import ShowControl.Proofs.Lighting.WellFormed

namespace ShowControl

/-- A small natural number is read as the double that holds it. -/
lemma Json.finiteNumber?_nat {n : ℕ} (h : n < 2 ^ 53) (hword : n < 2 ^ 64) :
    (Json.nat n hword).finiteNumber? = some (.ofNat n h) := by
  show (Number.ofInt n).finite? = _
  rw [Number.ofInt_natCast h]
  rfl

namespace Lighting

/-- Only what stands under its names matters in a payload. -/
lemma handoffFor_congr {payload payload' : Fields}
    (h : ∀ name, payload.get? name = payload'.get? name) :
    handoffFor payload = handoffFor payload' := by
  have hfield : ∀ name, (Json.object payload).field? name = (Json.object payload').field? name := h
  simp only [handoffFor, ofRawLevels, wordUnder?, h, hfield]

/-- A universe or a slot that a payload gives as a whole number. -/
lemma wordUnder?_nat {payload : Fields} {name : String} {n : ℕ} (h : n < 2 ^ 53)
    (hword : n < 2 ^ 64) (hget : payload.get? name = some (.nat n hword)) :
    wordUnder? (.object payload) name = some (n : ℤ) := by
  have hfield : (Json.object payload).field? name = some (.nat n hword) := hget
  rw [wordUnder?, hfield, Option.bind_some, Json.finiteNumber?_nat h, Option.map_some,
    Number.Binary64.truncate_ofNat, Number.saturate_of_mem (by omega) (by omega)]

end Lighting

namespace Handoff

lemma toNat_lt_word (l : UInt8) : l.toNat < 2 ^ 64 :=
  Nat.lt_trans l.toNat_lt (by omega)

/-- A level in the written form. -/
def levelJson (l : UInt8) : Json := .nat l.toNat (toNat_lt_word l)

/-- The fields of the written form. -/
def members (h : Handoff) : Fields := h.json.fields?.getD []

lemma json_eq_object (h : Handoff) : h.json = .object h.members := rfl

lemma nodup_names_members (h : Handoff) : h.members.names.Nodup := by
  obtain ⟨_, _, _ | destination⟩ := h
  · show ["universe", "levels"].Nodup
    decide
  · show ["universe", "levels", "dest"].Nodup
    decide

lemma get?_members_id (h : Handoff) : h.members.get? "id" = none := by
  obtain ⟨_, _, _ | destination⟩ := h <;> rfl

lemma get?_members_dest (h : Handoff) :
    (h.members.get? "dest").bind Json.text? = h.destination := by
  obtain ⟨_, _, _ | destination⟩ := h <;> rfl

/-- The written levels are read as they are. -/
lemma map_finiteNumber?_levelJson (levels : List UInt8) :
    (levels.map levelJson).map (fun j => Number.Extended.finite (j.finiteNumber?.getD .zero)) =
      levels.map levelNumber := by
  rw [List.map_map]
  apply List.map_congr_left
  intro l _
  have hl := l.toNat_lt
  rw [Function.comp_apply, levelJson, Json.finiteNumber?_nat (by omega)]
  rfl

/-- A well-formed handoff, handed in as a payload, asks for itself. -/
lemma WellFormed.handoffFor_members {h : Handoff} (hwf : h.WellFormed) :
    Lighting.handoffFor h.members = some h := by
  have huniverse : Lighting.wordUnder? (.object h.members) "universe" =
      some (h.universeNumber.toNat : ℤ) :=
    Lighting.wordUnder?_nat (by have := h.universeNumber.toNat_lt; omega) _ rfl
  have hlevels : (h.members.get? "levels").bind Json.items? = some (h.levels.map levelJson) := rfl
  -- nothing stands under `id`, so this is no level cue
  have hid : ¬ (h.members.get? "id").bind Json.text? = some Lighting.levelCueId := by
    rw [get?_members_id]
    exact Option.some_ne_none _ ∘ Eq.symm
  rw [Lighting.handoffFor, if_neg hid, hlevels]
  calc Lighting.ofRawLevels h.members (h.levels.map levelJson)
      = ofLevels h.universeNumber.toNat (h.levels.map levelNumber) h.destination := by
        rw [Lighting.ofRawLevels, huniverse, map_finiteNumber?_levelJson, get?_members_dest,
          Option.getD_some]
    _ = some h := hwf.ofLevels_self

end Handoff

/-- **A handoff is its own raw levels.**  What a payload asks for, written as an object and handed
in as a payload, asks for the same again: in whatever order the members stand, and as a reader keeps
them. -/
theorem Lighting.handoffFor_resubmitted (payload : Fields) (h : Handoff)
    (hfor : handoffFor payload = some h) :
    ∃ members, h.json = .object members ∧
      (∀ fields, fields.Perm members → handoffFor fields = some h) ∧
      handoffFor (Fields.ofMembers members) = some h := by
  obtain ⟨i, levels, destination, hmade⟩ := exists_ofLevels hfor
  have hwf := Handoff.wellFormed_of_ofLevels hmade
  -- the names of the members differ, so look-ups do not depend on their order
  have hany : ∀ fields, fields.Perm h.members → handoffFor fields = some h := by
    intro fields hperm
    calc handoffFor fields = handoffFor h.members :=
          handoffFor_congr (Fields.get?_of_perm hperm h.nodup_names_members)
      _ = some h := hwf.handoffFor_members
  exact ⟨h.members, h.json_eq_object, hany,
    hany _ (Fields.perm_ofMembers h.nodup_names_members)⟩

/-- A level cue for one host, with slots out of range. -/
theorem Lighting.handoffFor_resubmitted_of_level_cue :
    ∃ h members, handoffFor
        [("id", .string "lighting.level"),
          ("args", .object
            [("universe", .string "7"), ("start", .nat 511), ("count", .nat 9),
              ("level", .string "0.5"), ("dest", .string "10.0.0.2")])] = some h ∧
      h.json = .object members ∧ handoffFor members.reverse = some h := by
  have hsome : (handoffFor
      [("id", .string "lighting.level"),
        ("args", .object
          [("universe", .string "7"), ("start", .nat 511), ("count", .nat 9),
            ("level", .string "0.5"), ("dest", .string "10.0.0.2")])]).isSome := by
    decide +kernel
  obtain ⟨h, hfor⟩ := Option.isSome_iff_exists.mp hsome
  obtain ⟨members, hjson, hany, -⟩ := handoffFor_resubmitted _ h hfor
  exact ⟨h, members, hfor, hjson, hany _ members.reverse_perm⟩

end ShowControl
